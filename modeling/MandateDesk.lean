import MandateDesk.Action
import MandateDesk.Aging
import MandateDesk.Arbitration
import MandateDesk.Binary64.Basic
import MandateDesk.Binary64.Reader
import MandateDesk.Binary64.Shortest
import MandateDesk.Book
import MandateDesk.CommandLine.Arbitrate
import MandateDesk.CommandLine.Arguments
import MandateDesk.CommandLine.Invocation
import MandateDesk.Decimal.Arithmetic
import MandateDesk.Decimal.Basic
import MandateDesk.Decimal.Division
import MandateDesk.Decimal.Printer
import MandateDesk.Decimal.Reader
import MandateDesk.Decimal.Rounding
import MandateDesk.Desk.Admission
import MandateDesk.Desk.Basic
import MandateDesk.Desk.Cycle
import MandateDesk.Desk.Decision
import MandateDesk.Desk.Gate
import MandateDesk.Desk.Parameters
import MandateDesk.Desk.Settlement
import MandateDesk.Desk.Turn
import MandateDesk.Direction
import MandateDesk.Fault
import MandateDesk.Halt
import MandateDesk.Identifier
import MandateDesk.Ini.Reader
import MandateDesk.Instant.Basic
import MandateDesk.Instant.Calendar
import MandateDesk.Instant.Printer
import MandateDesk.Instant.Reader
import MandateDesk.Json.Printer
import MandateDesk.Json.Reader
import MandateDesk.Json.Reading
import MandateDesk.Json.Selection
import MandateDesk.Json.Skipping
import MandateDesk.Json.Value
import MandateDesk.Json5.Quoted
import MandateDesk.Json5.Reader
import MandateDesk.KeyOrder
import MandateDesk.Main
import MandateDesk.Mandate.Basic
import MandateDesk.Mandate.Reader
import MandateDesk.Mandate.Validation
import MandateDesk.Market
import MandateDesk.Observation
import MandateDesk.OrderedMap
import MandateDesk.Position.Basic
import MandateDesk.Position.State
import MandateDesk.Position.Transition
import MandateDesk.Power
import MandateDesk.Proofs.Admission
import MandateDesk.Proofs.Agreement
import MandateDesk.Proofs.Aiming
import MandateDesk.Proofs.Answering
import MandateDesk.Proofs.Breakdown
import MandateDesk.Proofs.Changes
import MandateDesk.Proofs.Checks
import MandateDesk.Proofs.Coherence
import MandateDesk.Proofs.Commands
import MandateDesk.Proofs.Conservation
import MandateDesk.Proofs.Contest
import MandateDesk.Proofs.Correspondence
import MandateDesk.Proofs.Coupling
import MandateDesk.Proofs.Criticality
import MandateDesk.Proofs.Cycles
import MandateDesk.Proofs.Days
import MandateDesk.Proofs.Deleveraging
import MandateDesk.Proofs.Differences
import MandateDesk.Proofs.Digits
import MandateDesk.Proofs.Distances
import MandateDesk.Proofs.Documents
import MandateDesk.Proofs.Drawing
import MandateDesk.Proofs.Edges
import MandateDesk.Proofs.Endurance
import MandateDesk.Proofs.Entering
import MandateDesk.Proofs.Exactness
import MandateDesk.Proofs.Exclusion
import MandateDesk.Proofs.Exits
import MandateDesk.Proofs.Expiring
import MandateDesk.Proofs.Exposures
import MandateDesk.Proofs.Fates
import MandateDesk.Proofs.Flagging
import MandateDesk.Proofs.Forcing
import MandateDesk.Proofs.Freezing
import MandateDesk.Proofs.Gating
import MandateDesk.Proofs.Handing
import MandateDesk.Proofs.Histories
import MandateDesk.Proofs.Holdings
import MandateDesk.Proofs.Installing
import MandateDesk.Proofs.Issuing
import MandateDesk.Proofs.Judging
import MandateDesk.Proofs.Latching
import MandateDesk.Proofs.Layering
import MandateDesk.Proofs.Leverage
import MandateDesk.Proofs.Lifecycle
import MandateDesk.Proofs.Loading
import MandateDesk.Proofs.Maps
import MandateDesk.Proofs.Margins
import MandateDesk.Proofs.Mirroring
import MandateDesk.Proofs.Nearest
import MandateDesk.Proofs.Numerals
import MandateDesk.Proofs.Overfills
import MandateDesk.Proofs.Overflows
import MandateDesk.Proofs.Overstaying
import MandateDesk.Proofs.Phrasing
import MandateDesk.Proofs.Precedence
import MandateDesk.Proofs.Pricing
import MandateDesk.Proofs.Printing
import MandateDesk.Proofs.Quotients
import MandateDesk.Proofs.Reachability
import MandateDesk.Proofs.Reconciliation
import MandateDesk.Proofs.Records
import MandateDesk.Proofs.Registry
import MandateDesk.Proofs.Relaxing
import MandateDesk.Proofs.Reopening
import MandateDesk.Proofs.Retaining
import MandateDesk.Proofs.Retrying
import MandateDesk.Proofs.Rounding
import MandateDesk.Proofs.Ruling
import MandateDesk.Proofs.Settling
import MandateDesk.Proofs.Shortfalls
import MandateDesk.Proofs.Spelling
import MandateDesk.Proofs.Sums
import MandateDesk.Proofs.Tenure
import MandateDesk.Proofs.Timestamps
import MandateDesk.Proofs.Tracking
import MandateDesk.Proofs.Trading
import MandateDesk.Proofs.Values
import MandateDesk.Proofs.Waiting
import MandateDesk.Reconciliation
import MandateDesk.Record.Decision
import MandateDesk.Record.Fault
import MandateDesk.Record.Halt
import MandateDesk.Record.Mandate
import MandateDesk.Record.Market
import MandateDesk.Record.Parameters
import MandateDesk.Record.Parts
import MandateDesk.Record.Position
import MandateDesk.Record.Risk
import MandateDesk.Record.Roster
import MandateDesk.Record.Session
import MandateDesk.Record.Venue
import MandateDesk.Registry
import MandateDesk.Reservation
import MandateDesk.Risk.Deleverage
import MandateDesk.Risk.Distance
import MandateDesk.Risk.Exposure
import MandateDesk.Risk.Gate
import MandateDesk.Risk.Limits
import MandateDesk.Risk.Metrics
import MandateDesk.Risk.Rejection
import MandateDesk.Ron.Quoted
import MandateDesk.Ron.Reader
import MandateDesk.Ron.Word
import MandateDesk.Session.Basic
import MandateDesk.Session.Command
import MandateDesk.Session.Health
import MandateDesk.Settings.Basic
import MandateDesk.Settings.Document
import MandateDesk.Settings.Layers
import MandateDesk.Settings.Lenient
import MandateDesk.Settings.Path
import MandateDesk.Settings.Printer
import MandateDesk.Store.Basic
import MandateDesk.Store.File
import MandateDesk.Store.Memory
import MandateDesk.Symbol
import MandateDesk.Text.Blank
import MandateDesk.Text.Digits
import MandateDesk.Text.Gap
import MandateDesk.Text.Invisible
import MandateDesk.Text.Keyword
import MandateDesk.Text.Letter
import MandateDesk.Text.Quoted
import MandateDesk.Text.Split
import MandateDesk.Text.Word
import MandateDesk.Toml.Marked
import MandateDesk.Toml.Printer
import MandateDesk.Toml.Reader
import MandateDesk.Toml.Scalar
import MandateDesk.Toml.Time
import MandateDesk.Toml.Tree
import MandateDesk.Venue.Order
import MandateDesk.Venue.Paper
import MandateDesk.Yaml.Block
import MandateDesk.Yaml.Cursor
import MandateDesk.Yaml.Folding
import MandateDesk.Yaml.Node
import MandateDesk.Yaml.Outline
import MandateDesk.Yaml.Plain
import MandateDesk.Yaml.Quoted
import MandateDesk.Yaml.Tag
import MandateDesk.Yaml.Token
import MandateDesk.Yaml.Tokens
import MandateDesk.Yaml.Tree
