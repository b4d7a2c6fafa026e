import ClusterGuard.Attempt
import ClusterGuard.Breaker.Basic
import ClusterGuard.Breaker.Call
import ClusterGuard.Breaker.Config
import ClusterGuard.Breaker.Window
import ClusterGuard.Client.Basic
import ClusterGuard.Client.Lifecycle
import ClusterGuard.Command
import ClusterGuard.ConfigError
import ClusterGuard.Configuration.Basic
import ClusterGuard.Configuration.Document
import ClusterGuard.Dispatch.Basic
import ClusterGuard.Dispatch.Job
import ClusterGuard.Endpoint
import ClusterGuard.Fault
import ClusterGuard.Guard.Basic
import ClusterGuard.Guard.Call
import ClusterGuard.Guard.Stream
import ClusterGuard.Memory.Connection
import ClusterGuard.Memory.Hub
import ClusterGuard.Memory.Transport
import ClusterGuard.Number.Binary
import ClusterGuard.Number.Rounding
import ClusterGuard.Number.Shortest
import ClusterGuard.Number.Text
import ClusterGuard.Options
import ClusterGuard.PubSub.Connection
import ClusterGuard.PubSub.Event
import ClusterGuard.PubSub.Listener
import ClusterGuard.Retry.Backoff
import ClusterGuard.Retry.Basic
import ClusterGuard.Retry.Config
import ClusterGuard.Retry.Policy
import ClusterGuard.Retry.Task
import ClusterGuard.Severity
import ClusterGuard.Stream.Drain
import ClusterGuard.Stream.Gated
import ClusterGuard.Stream.Protection
import ClusterGuard.Stream.Retrying
import ClusterGuard.Stream.Source
import ClusterGuard.Stream.Taken
import ClusterGuard.Text.CharSet
import ClusterGuard.Text.Digits
import ClusterGuard.Text.Mark
import ClusterGuard.Text.Quoted
import ClusterGuard.Text.Record
import ClusterGuard.Text.Split
import ClusterGuard.Text.Visible
import ClusterGuard.Time.Duration
import ClusterGuard.Time.Millis
import ClusterGuard.Time.Text
import ClusterGuard.Time.Timer
import ClusterGuard.Toml.Blank
import ClusterGuard.Toml.Document
import ClusterGuard.Toml.Moment
import ClusterGuard.Toml.Number
import ClusterGuard.Toml.Table
import ClusterGuard.Toml.Text
import ClusterGuard.Toml.Value
import ClusterGuard.Uri.Address
import ClusterGuard.Uri.Authority
import ClusterGuard.Uri.Basic
import ClusterGuard.Uri.Composition
import ClusterGuard.Uri.Direction
import ClusterGuard.Uri.Domain
import ClusterGuard.Uri.Error
import ClusterGuard.Uri.Joiner
import ClusterGuard.Uri.Label
import ClusterGuard.Uri.Mapping
import ClusterGuard.Uri.Path
import ClusterGuard.Uri.Percent
import ClusterGuard.Uri.Punycode
import ClusterGuard.Proofs.Breaker.Opening
import ClusterGuard.Proofs.Breaker.Operations
import ClusterGuard.Proofs.Breaker.Session
import ClusterGuard.Proofs.Breaker.Trials
import ClusterGuard.Proofs.Breaker.Window
import ClusterGuard.Proofs.Guard.Accounts
import ClusterGuard.Proofs.Guard.Blocking
import ClusterGuard.Proofs.Guard.Invocations
import ClusterGuard.Proofs.Guard.Ledger
import ClusterGuard.Proofs.Guard.Protected
import ClusterGuard.Proofs.Guard.Traffic
import ClusterGuard.Proofs.Number.Whole
import ClusterGuard.Proofs.Stream.Schedule
import ClusterGuard.Proofs.Stream.Course
import ClusterGuard.Proofs.Stream.Subscriptions
import ClusterGuard.Proofs.Stream.Gate
import ClusterGuard.Proofs.Guard.Reading
import ClusterGuard.Proofs.Retry.Task
import ClusterGuard.Proofs.Guard.Shapes
import ClusterGuard.Proofs.Guard.Keeping
import ClusterGuard.Proofs.Client.Closing
import ClusterGuard.Proofs.Client.Journal
import ClusterGuard.Proofs.Client.Lifecycle
import ClusterGuard.Proofs.Breaker.Recovery
import ClusterGuard.Proofs.Breaker.Stale
import ClusterGuard.Proofs.Retry.Loop
import ClusterGuard.Proofs.Retry.Held
import ClusterGuard.Proofs.Number.Order
import ClusterGuard.Proofs.Number.Percent
import ClusterGuard.Proofs.Number.Power
import ClusterGuard.Proofs.Time.Seconds
import ClusterGuard.Proofs.Retry.Exponential
import ClusterGuard.Proofs.Retry.Momentary
import ClusterGuard.Proofs.Retry.Jitter
import ClusterGuard.Proofs.Breaker.Streak
import ClusterGuard.Proofs.Breaker.Taken
import ClusterGuard.Proofs.Breaker.Success
import ClusterGuard.Proofs.Breaker.Outage
import ClusterGuard.Proofs.Breaker.Hint
import ClusterGuard.Proofs.Guard.Story
import ClusterGuard.Proofs.Guard.Punctual
import ClusterGuard.Proofs.Guard.Short
import ClusterGuard.Proofs.Guard.Handover
import ClusterGuard.Proofs.Client.Construction
import ClusterGuard.Proofs.Memory.Feeds
import ClusterGuard.Proofs.Memory.FanOut
import ClusterGuard.Proofs.PubSub.Topology
import ClusterGuard.Proofs.Time.Millis
import ClusterGuard.Proofs.Uri.Redaction
import ClusterGuard.Proofs.Stream.Permits
