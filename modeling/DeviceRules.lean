import DeviceRules.Action.Basic
import DeviceRules.Action.Decode
import DeviceRules.Action.Encode
import DeviceRules.Broker.Session
import DeviceRules.Broker.Settings
import DeviceRules.Condition.Basic
import DeviceRules.Condition.Decode
import DeviceRules.Condition.Encode
import DeviceRules.Database.Connection
import DeviceRules.Database.Location
import DeviceRules.Database.Rules
import DeviceRules.Database.Telemetry
import DeviceRules.Decimal.Dyadic
import DeviceRules.Decimal.Form
import DeviceRules.Decimal.Shortest
import DeviceRules.Defect
import DeviceRules.Engine.Loop
import DeviceRules.Engine.Tick
import DeviceRules.Evaluation
import DeviceRules.Event
import DeviceRules.Execution
import DeviceRules.Fault
import DeviceRules.Field
import DeviceRules.FileTree
import DeviceRules.FireState
import DeviceRules.Http.Message
import DeviceRules.Identifier
import DeviceRules.Json.Basic
import DeviceRules.Json.Reader
import DeviceRules.Json.Writer
import DeviceRules.Memory
import DeviceRules.Proofs.Broker.Gate
import DeviceRules.Proofs.Database.RuleHistory
import DeviceRules.Proofs.Decimal.Double
import DeviceRules.Proofs.Decimal.Rounding
import DeviceRules.Proofs.Decimal.Shortest
import DeviceRules.Proofs.Decimal.Sign
import DeviceRules.Proofs.Document.Action
import DeviceRules.Proofs.Document.Condition
import DeviceRules.Proofs.Document.Fields
import DeviceRules.Proofs.Document.Locality
import DeviceRules.Proofs.Document.Nesting
import DeviceRules.Proofs.Document.SavedInstants
import DeviceRules.Proofs.Document.Trigger
import DeviceRules.Proofs.Document.UnreadKeys
import DeviceRules.Proofs.Engine.Bookkeeping
import DeviceRules.Proofs.Engine.Dispatch
import DeviceRules.Proofs.Engine.FireState
import DeviceRules.Proofs.Engine.History
import DeviceRules.Proofs.Engine.Inactive
import DeviceRules.Proofs.Engine.IntervalGuard
import DeviceRules.Proofs.Engine.Isolation
import DeviceRules.Proofs.Engine.Order
import DeviceRules.Proofs.Engine.Pauses
import DeviceRules.Proofs.Engine.RateLimit
import DeviceRules.Proofs.Engine.Report
import DeviceRules.Proofs.Engine.Stopping
import DeviceRules.Proofs.Evaluation.Answering
import DeviceRules.Proofs.Evaluation.Deciding
import DeviceRules.Proofs.Evaluation.Meaning
import DeviceRules.Proofs.Evaluation.Questions
import DeviceRules.Proofs.Evaluation.Reached
import DeviceRules.Proofs.Evaluation.ShortCircuit
import DeviceRules.Proofs.Evaluation.TimeOfDay
import DeviceRules.Proofs.Evaluation.TrailingWindow
import DeviceRules.Proofs.Evaluation.Widening
import DeviceRules.Proofs.Execution.Failures
import DeviceRules.Proofs.Execution.Leaves
import DeviceRules.Proofs.Json.Number
import DeviceRules.Proofs.Json.Read
import DeviceRules.Proofs.Json.Tree
import DeviceRules.Proofs.Json.Written
import DeviceRules.Proofs.Memory.Following
import DeviceRules.Proofs.Memory.Toggling
import DeviceRules.Proofs.Sorting
import DeviceRules.Proofs.Telemetry.Newest
import DeviceRules.Proofs.Telemetry.Stores
import DeviceRules.Proofs.Telemetry.Windows
import DeviceRules.Proofs.Time.Calendar
import DeviceRules.Proofs.Time.Limits
import DeviceRules.Proofs.Time.Order
import DeviceRules.Proofs.Time.Passing
import DeviceRules.Proofs.Time.SignedYears
import DeviceRules.Proofs.Time.TextOrder
import DeviceRules.Proofs.Time.Written
import DeviceRules.Proofs.Trees
import DeviceRules.Rule
import DeviceRules.Sample
import DeviceRules.Settings.Basic
import DeviceRules.Settings.Load
import DeviceRules.Simulation.Timeline
import DeviceRules.Simulation.World
import DeviceRules.Text.Basic
import DeviceRules.Text.Percent
import DeviceRules.Time.Calendar
import DeviceRules.Time.Duration
import DeviceRules.Time.Format
import DeviceRules.Time.Instant
import DeviceRules.Time.Reading
import DeviceRules.Toml.Reader
import DeviceRules.Toml.Scalar
import DeviceRules.Toml.Tree
