import ActualState.Text.Utf8
import ActualState.Json.Lexer
import ActualState.Json.Node
import ActualState.Text.Quoted
import ActualState.Decimal.Style
import ActualState.Decimal.Reading
import ActualState.Json.Decode
import ActualState.Heartbeat
import ActualState.Time.Rfc3339
import ActualState.Time.Ticker
import ActualState.Config.Json
import ActualState.Config.Yaml
import ActualState.Config.Load
import ActualState.Aggregation
import ActualState.Metrics
import ActualState.Register
import ActualState.Store.Backend
import ActualState.Http.Router
import ActualState.Listener.Service
import ActualState.Simulation.StoreSession
import ActualState.Simulation.ListenerSession
import ActualState.Simulation.Timeline
import ActualState.Yaml.Token
import ActualState.Yaml.Scalar
import ActualState.Yaml.Property
import ActualState.Yaml.Lexer
import ActualState.Yaml.Document
import ActualState.Startup.Launch
import ActualState.Simulation.BusSession
import ActualState.Main
import ActualState.Proofs.Register
import ActualState.Proofs.Listener.Run
import ActualState.Proofs.Listener.Conservation
import ActualState.Proofs.Listener.Decisions
import ActualState.Proofs.Store.Run
import ActualState.Proofs.Store.History
import ActualState.Proofs.Store.Failure
import ActualState.Proofs.Text.Utf8
import ActualState.Proofs.Http.Access
import ActualState.Proofs.Http.Views
import ActualState.Proofs.Service.Run
import ActualState.Proofs.Service.Standing
import ActualState.Proofs.Service.Certificate
import ActualState.Proofs.Text.Percent
import ActualState.Proofs.Time.Calendar
import ActualState.Proofs.Time.Rfc3339
import ActualState.Proofs.Decimal.Digits
import ActualState.Proofs.Decimal.Rounding
import ActualState.Proofs.Decimal.Arithmetic
import ActualState.Proofs.Decimal.Scaling
import ActualState.Proofs.Decimal.Shortest
import ActualState.Proofs.Decimal.Bits
import ActualState.Proofs.Decimal.Nearest
import ActualState.Proofs.Decimal.Recovery
import ActualState.Proofs.Decimal.Drift
import ActualState.Proofs.Json.Strings
import ActualState.Proofs.Json.Numerals
import ActualState.Proofs.Json.Numbers
import ActualState.Proofs.Json.Spellings
import ActualState.Proofs.Json.Values
import ActualState.Proofs.Json.Members
import ActualState.Proofs.Json.Records
import ActualState.Proofs.Json.Doubles
import ActualState.Proofs.Store.Encoding
import ActualState.Proofs.Store.Durability
import ActualState.Proofs.Config.Durations
import ActualState.Proofs.Config.Validation
import ActualState.Proofs.Listener.Reports
import ActualState.Proofs.Bus.Resubscription
import ActualState.Proofs.Heartbeat.Spelling
import ActualState.Proofs.Heartbeat.RoundTrip
import ActualState.Proofs.Bus.Delivery
import ActualState.Proofs.Runtime.Run
import ActualState.Proofs.Runtime.Cadence
import ActualState.Proofs.Runtime.Stop
import ActualState.Proofs.Json.Extent
import ActualState.Proofs.Heartbeat.Extent
import ActualState.Proofs.Json.Naturals
import ActualState.Proofs.Json.Gaps
import ActualState.Proofs.Heartbeat.Index
import ActualState.Proofs.Decimal.Sums
import ActualState.Proofs.Store.Fraction
import ActualState.Proofs.Listener.Silence
import ActualState.Proofs.Store.Workload
import ActualState.Proofs.Store.Batches
import ActualState.Proofs.Service.Boundaries
import ActualState.Proofs.Runtime.Sampling
import ActualState.Proofs.Service.Arrivals
import ActualState.Proofs.Service.Turns
import ActualState.Proofs.Service.Script
import ActualState.Proofs.Yaml.Words
import ActualState.Proofs.Yaml.Steps
import ActualState.Proofs.Yaml.Pages
import ActualState.Proofs.Yaml.Trees
import ActualState.Proofs.Config.Sheets
import ActualState.Proofs.Config.Overlay
