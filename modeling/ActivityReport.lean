import ActivityReport.Calendar.Date
import ActivityReport.Calendar.Text
import ActivityReport.Calendar.Timestamp
import ActivityReport.Calendar.Window
import ActivityReport.Catalog.Column
import ActivityReport.Catalog.FieldName
import ActivityReport.Catalog.Requirement
import ActivityReport.Cell.Basic
import ActivityReport.Cell.Display
import ActivityReport.Cell.Epoch
import ActivityReport.Cell.Order
import ActivityReport.Cell.Typed
import ActivityReport.Config.Files
import ActivityReport.Config.KnownWiki
import ActivityReport.Config.Resources
import ActivityReport.Config.Settings
import ActivityReport.Digest.Sha256
import ActivityReport.Failure.Basic
import ActivityReport.Failure.Incident
import ActivityReport.Json.Basic
import ActivityReport.Json.Display
import ActivityReport.Json.Reader
import ActivityReport.Json.Token
import ActivityReport.Ladder.Level
import ActivityReport.Ladder.Reading
import ActivityReport.Ladder.Rung
import ActivityReport.Number.Amount
import ActivityReport.Number.Binary
import ActivityReport.Number.Decimal
import ActivityReport.Number.Extended
import ActivityReport.Number.Fixed
import ActivityReport.Number.Order
import ActivityReport.Number.Quotient
import ActivityReport.Number.Shortest
import ActivityReport.Number.Text
import ActivityReport.Number.Whole
import ActivityReport.Payload.Checked
import ActivityReport.Payload.Column
import ActivityReport.Payload.Condition
import ActivityReport.Payload.Day
import ActivityReport.Payload.Dump
import ActivityReport.Payload.Field
import ActivityReport.Payload.Issue
import ActivityReport.Payload.Request
import ActivityReport.Payload.Scalar
import ActivityReport.Plan.Alias
import ActivityReport.Plan.Basic
import ActivityReport.Plan.Key
import ActivityReport.Proofs.Calendar.Epoch
import ActivityReport.Proofs.Calendar.Iso
import ActivityReport.Proofs.Calendar.Key
import ActivityReport.Proofs.Cell.Order
import ActivityReport.Proofs.Config.Reach
import ActivityReport.Proofs.Ladder.Held
import ActivityReport.Proofs.Ladder.Measure
import ActivityReport.Proofs.Ladder.Order
import ActivityReport.Proofs.Number.Defined
import ActivityReport.Proofs.Number.Finite
import ActivityReport.Proofs.Number.Grid
import ActivityReport.Proofs.Number.Nearest
import ActivityReport.Proofs.Number.Order
import ActivityReport.Proofs.Number.Overflow
import ActivityReport.Proofs.Number.Sum
import ActivityReport.Proofs.Number.Zero
import ActivityReport.Proofs.Payload.Column
import ActivityReport.Proofs.Payload.Condition
import ActivityReport.Proofs.Payload.Entries
import ActivityReport.Proofs.Payload.Respelled
import ActivityReport.Proofs.Payload.Written
import ActivityReport.Proofs.Plan.Coverage
import ActivityReport.Proofs.Plan.Hiding
import ActivityReport.Proofs.Plan.Horizon
import ActivityReport.Proofs.Plan.Length
import ActivityReport.Proofs.Plan.Naming
import ActivityReport.Proofs.Plan.Spelling
import ActivityReport.Proofs.Plan.Timeless
import ActivityReport.Proofs.Pyramid.Population
import ActivityReport.Proofs.Query.Coverage
import ActivityReport.Proofs.Query.Faults
import ActivityReport.Proofs.Query.Fewer
import ActivityReport.Proofs.Query.Joined
import ActivityReport.Proofs.Query.Limits
import ActivityReport.Proofs.Query.Matching
import ActivityReport.Proofs.Query.OwnShares
import ActivityReport.Proofs.Query.Replacement
import ActivityReport.Proofs.Query.Served
import ActivityReport.Proofs.Query.Shares
import ActivityReport.Proofs.Query.Spans
import ActivityReport.Proofs.Query.Tally
import ActivityReport.Proofs.Query.Timeless
import ActivityReport.Proofs.Query.Totals
import ActivityReport.Proofs.Report.Adjacent
import ActivityReport.Proofs.Report.Answer
import ActivityReport.Proofs.Report.Answered
import ActivityReport.Proofs.Report.Columns
import ActivityReport.Proofs.Report.Comparable
import ActivityReport.Proofs.Report.Comparison
import ActivityReport.Proofs.Report.Complement
import ActivityReport.Proofs.Report.Conditions
import ActivityReport.Proofs.Report.Configuration
import ActivityReport.Proofs.Report.Counters
import ActivityReport.Proofs.Report.Escapes
import ActivityReport.Proofs.Report.FirstDay
import ActivityReport.Proofs.Report.LevelColumns
import ActivityReport.Proofs.Report.Levels
import ActivityReport.Proofs.Report.Listed
import ActivityReport.Proofs.Report.LogDates
import ActivityReport.Proofs.Report.Lookups
import ActivityReport.Proofs.Report.Measured
import ActivityReport.Proofs.Report.Milestones
import ActivityReport.Proofs.Report.Modes
import ActivityReport.Proofs.Report.NullsLast
import ActivityReport.Proofs.Report.Numbering
import ActivityReport.Proofs.Report.Order
import ActivityReport.Proofs.Report.OwnShares
import ActivityReport.Proofs.Report.Periods
import ActivityReport.Proofs.Report.Positive
import ActivityReport.Proofs.Report.Precedence
import ActivityReport.Proofs.Report.Provenance
import ActivityReport.Proofs.Report.Ranks
import ActivityReport.Proofs.Report.Refusals
import ActivityReport.Proofs.Report.Reproducible
import ActivityReport.Proofs.Report.Requirements
import ActivityReport.Proofs.Report.Shares
import ActivityReport.Proofs.Report.Spans
import ActivityReport.Proofs.Report.Telemetry
import ActivityReport.Proofs.Report.Timeless
import ActivityReport.Proofs.Report.Totals
import ActivityReport.Proofs.Schema.Stored
import ActivityReport.Proofs.Sorting.Failure
import ActivityReport.Proofs.Sorting.Naturality
import ActivityReport.Proofs.Sorting.Parts
import ActivityReport.Proofs.Sorting.Permutation
import ActivityReport.Proofs.Store.Agreement
import ActivityReport.Proofs.Store.Groups
import ActivityReport.Proofs.Store.Latest
import ActivityReport.Proofs.Store.Memberships
import ActivityReport.Proofs.Store.Totals
import ActivityReport.Proofs.Text.Bytes
import ActivityReport.Proofs.Trace.Agreement
import ActivityReport.Proofs.Trace.Lookups
import ActivityReport.Proofs.Trace.Outcome
import ActivityReport.Proofs.Trace.Success
import ActivityReport.Proofs.Trace.Telemetry
import ActivityReport.Pyramid.Definition
import ActivityReport.Pyramid.Population
import ActivityReport.Query.Basic
import ActivityReport.Query.Depth
import ActivityReport.Query.Dialect
import ActivityReport.Query.Evaluation
import ActivityReport.Query.Expression
import ActivityReport.Query.Identifier
import ActivityReport.Query.Joined
import ActivityReport.Query.Limits
import ActivityReport.Query.Place
import ActivityReport.Query.Reserved
import ActivityReport.Report.Basic
import ActivityReport.Report.Compile
import ActivityReport.Report.Numbering
import ActivityReport.Report.Order
import ActivityReport.Report.Row
import ActivityReport.Request.Basic
import ActivityReport.Request.Column
import ActivityReport.Request.Condition
import ActivityReport.Schema.Counter
import ActivityReport.Schema.Scope
import ActivityReport.Schema.Table
import ActivityReport.Sorting.Basic
import ActivityReport.Sorting.Merge
import ActivityReport.Sorting.Run
import ActivityReport.Sorting.Search
import ActivityReport.Store.Basic
import ActivityReport.Store.Database
import ActivityReport.Store.Groups
import ActivityReport.Store.Lookup
import ActivityReport.Text.Blank
import ActivityReport.Text.CaseFold
import ActivityReport.Text.Digit
import ActivityReport.Text.Quoted
import ActivityReport.Text.Utf8
import ActivityReport.Text.Visible
import ActivityReport.Trace.Basic
import ActivityReport.Trace.Telemetry
