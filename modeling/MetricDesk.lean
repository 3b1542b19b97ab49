import MetricDesk.Number.Basic
import MetricDesk.Number.Digits
import MetricDesk.Number.Double
import MetricDesk.Number.Exact
import MetricDesk.Number.Layout
import MetricDesk.Number.Precision
import MetricDesk.Number.Reading
import MetricDesk.Number.Rounding
import MetricDesk.Text.Blank
import MetricDesk.Text.Case
import MetricDesk.Text.Digit
import MetricDesk.Text.Printable
import MetricDesk.Text.Quoted
import MetricDesk.Text.Ranges
import MetricDesk.Text.Scan
import MetricDesk.Text.Word
import MetricDesk.Calendar.Date
import MetricDesk.Calendar.Moment
import MetricDesk.Calendar.Span
import MetricDesk.Calendar.Window
import MetricDesk.Value.Arithmetic
import MetricDesk.Value.Basic
import MetricDesk.Value.Text
import MetricDesk.Value.Wire
import MetricDesk.Json.Reader
import MetricDesk.Json.Writer
import MetricDesk.Plan.Basic
import MetricDesk.Plan.Draft
import MetricDesk.Plan.Keyword
import MetricDesk.Plan.Phrase
import MetricDesk.Plan.Reply
import MetricDesk.Plan.Title
import MetricDesk.Plan.Validation
import MetricDesk.Plan.Violation
import MetricDesk.Plan.Vocabulary
import MetricDesk.Result.Basic
import MetricDesk.Result.Validation
import MetricDesk.Failure
import MetricDesk.Sorting.Basic
import MetricDesk.Sorting.Merge
import MetricDesk.Sorting.Search
import MetricDesk.Template.Basic
import MetricDesk.Template.Fault
import MetricDesk.Template.Mark
import MetricDesk.Trace
import MetricDesk.Model
import MetricDesk.Prompt
import MetricDesk.Digest.Sha256
import MetricDesk.Cache.Basic
import MetricDesk.Cache.Key
import MetricDesk.Cache.Pair
import MetricDesk.Series.Cells
import MetricDesk.Series.Composition
import MetricDesk.Series.Query
import MetricDesk.Series.Resolution
import MetricDesk.Series.Row
import MetricDesk.Analysis.Aggregate
import MetricDesk.Analysis.Attribution
import MetricDesk.Analysis.Basic
import MetricDesk.Analysis.Cells
import MetricDesk.Analysis.Execution
import MetricDesk.Analysis.Quantity
import MetricDesk.Analysis.Table
import MetricDesk.Narration.Basic
import MetricDesk.Narration.Fallback
import MetricDesk.Narration.Grounding
import MetricDesk.Narration.Leaves
import MetricDesk.Narration.Numeral
import MetricDesk.Planner
import MetricDesk.Warehouse.Connection
import MetricDesk.Warehouse.Pool
import MetricDesk.Warehouse.Read
import MetricDesk.Warehouse.Reception
import MetricDesk.Warehouse.Statement
import MetricDesk.Warehouse.Table
import MetricDesk.Settings.Basic
import MetricDesk.Settings.Reading
import MetricDesk.Client.Basic
import MetricDesk.Client.Provider
import MetricDesk.Service.Basic
import MetricDesk.Service.Build
import MetricDesk.Http.Address
import MetricDesk.Http.Basic
import MetricDesk.Http.Body
import MetricDesk.Http.Route
import MetricDesk.Evaluation.Checks
import MetricDesk.Evaluation.Command
import MetricDesk.Evaluation.Golden
import MetricDesk.Evaluation.Report
import MetricDesk.Evaluation.Rows
import MetricDesk.Evaluation.Score
import MetricDesk.Seeding.Chance
import MetricDesk.Seeding.Generation
import MetricDesk.Seeding.Load
import MetricDesk.Seeding.Rows
import MetricDesk.Main
import MetricDesk.Proofs.Failure
import MetricDesk.Proofs.Number.Nearest
import MetricDesk.Proofs.Number.Shortest
import MetricDesk.Proofs.Number.Text
import MetricDesk.Proofs.Number.Hundredths
import MetricDesk.Proofs.Number.Whole
import MetricDesk.Proofs.Number.Order
import MetricDesk.Proofs.Calendar.Window
import MetricDesk.Proofs.Value.Alike
import MetricDesk.Proofs.Sorting.Permutation
import MetricDesk.Proofs.Sorting.MergeSort
import MetricDesk.Proofs.Sorting.Totality
import MetricDesk.Proofs.Json.Canonical
import MetricDesk.Proofs.Json.Order
import MetricDesk.Proofs.Json.Grammar
import MetricDesk.Proofs.Json.Token
import MetricDesk.Proofs.Json.Reading
import MetricDesk.Proofs.Json.Depth
import MetricDesk.Proofs.Json.Limits
import MetricDesk.Proofs.Plan.Wire
import MetricDesk.Proofs.Plan.Validity
import MetricDesk.Proofs.Plan.Grammar
import MetricDesk.Proofs.Plan.Acceptance
import MetricDesk.Proofs.Plan.Outcome
import MetricDesk.Proofs.Plan.Sentence
import MetricDesk.Proofs.Plan.Fence
import MetricDesk.Proofs.Plan.Reply
import MetricDesk.Proofs.Cache.Entries
import MetricDesk.Proofs.Cache.Key
import MetricDesk.Proofs.Cache.Separation
import MetricDesk.Proofs.Cache.Survival
import MetricDesk.Proofs.Cache.Lookup
import MetricDesk.Proofs.Cache.Run
import MetricDesk.Proofs.Analysis.Execution
import MetricDesk.Proofs.Analysis.Summary
import MetricDesk.Proofs.Analysis.Rows
import MetricDesk.Proofs.Series.Labels
import MetricDesk.Proofs.Series.Conservation
import MetricDesk.Proofs.Analysis.Ranking
import MetricDesk.Proofs.Analysis.Consistency
import MetricDesk.Proofs.Warehouse.Supply
import MetricDesk.Proofs.Analysis.Totality
import MetricDesk.Proofs.Result.Wire
import MetricDesk.Proofs.Result.Acceptance
import MetricDesk.Proofs.Result.Conformance
import MetricDesk.Proofs.Narration.Numerals
import MetricDesk.Proofs.Narration.Amount
import MetricDesk.Proofs.Narration.Leaves
import MetricDesk.Proofs.Result.Revalidation
import MetricDesk.Proofs.Narration.Verdict
import MetricDesk.Proofs.Narration.Fallback
import MetricDesk.Proofs.Narration.Outcome
import MetricDesk.Proofs.Service.Interleaving
import MetricDesk.Proofs.Service.World
import MetricDesk.Proofs.Service.Isolation
import MetricDesk.Proofs.Service.Retention
import MetricDesk.Proofs.Service.Planning
import MetricDesk.Proofs.Result.Grammar
import MetricDesk.Proofs.Service.Wording
import MetricDesk.Proofs.Number.Rounded
import MetricDesk.Proofs.Cache.Timeline
import MetricDesk.Proofs.Service.Setback
import MetricDesk.Proofs.Cache.Eviction
import MetricDesk.Proofs.Service.Sequence
import MetricDesk.Proofs.Service.Deduplication
import MetricDesk.Proofs.Cache.Victim
import MetricDesk.Proofs.Cache.Words
import MetricDesk.Proofs.Analysis.Grouping
import MetricDesk.Proofs.Analysis.Joining
import MetricDesk.Proofs.Calendar.Tiling
import MetricDesk.Proofs.Series.Quotient
import MetricDesk.Proofs.Series.Reordering
import MetricDesk.Proofs.Analysis.Reordering
import MetricDesk.Proofs.Sorting.Naturality
import MetricDesk.Proofs.Analysis.Breakdowns
import MetricDesk.Proofs.Calendar.Iso
import MetricDesk.Proofs.Series.Dating
import MetricDesk.Proofs.Warehouse.Wording
import MetricDesk.Proofs.Text.Scan
import MetricDesk.Proofs.Text.Case
import MetricDesk.Proofs.Plan.Phrase
import MetricDesk.Proofs.Plan.Draft
import MetricDesk.Proofs.Plan.Units
import MetricDesk.Proofs.Plan.Keyword
import MetricDesk.Proofs.Plan.Demand
import MetricDesk.Proofs.Plan.Days
import MetricDesk.Proofs.Plan.Report
import MetricDesk.Proofs.Json.Writing
import MetricDesk.Proofs.Prompt
import MetricDesk.Proofs.Warehouse.Release
import MetricDesk.Proofs.Client.Connections
import MetricDesk.Proofs.Narration.Spans
import MetricDesk.Proofs.Evaluation.Rejection
