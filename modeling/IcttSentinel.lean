import IcttSentinel.Collector.Accounting
import IcttSentinel.InvariantCore.Conservation
import IcttSentinel.StateMachine.Effect
import IcttSentinel.Alerts.Paging
import IcttSentinel.Storage.Ledger
import IcttSentinel.Storage.ReplayStore
import IcttSentinel.Replay.Plan
import IcttSentinel.Replay.Agreement
import IcttSentinel.Replay.Completeness
import IcttSentinel.Replay.Hints
import IcttSentinel.Replay.Engine
import IcttSentinel.Replay.Soundness
import IcttSentinel.Lib.Decimal
import IcttSentinel.Replay.Coverage
import IcttSentinel.Replay.Recovery
import IcttSentinel.Replay.HintOrder
import IcttSentinel.Alerts.Outbox
import IcttSentinel.Alerts.Sanitize
import IcttSentinel.Alerts.Raise
import IcttSentinel.Alerts.Filing
import IcttSentinel.Alerts.Closing
import IcttSentinel.Lib.Components
import IcttSentinel.RpcQuorum.Independence
import IcttSentinel.RpcQuorum.Quorum
import IcttSentinel.RpcQuorum.Soundness
import IcttSentinel.RpcQuorum.Loss
import IcttSentinel.StateMachine.Watermark
import IcttSentinel.Collector.Reading
import IcttSentinel.Collector.Redelivery
import IcttSentinel.Collector.Repetition
import IcttSentinel.Storage.Reordering
import IcttSentinel.Replay.Facts
import IcttSentinel.Replay.Witnesses
import IcttSentinel.Adapters.Scaling
import IcttSentinel.Domain.Lattice
import IcttSentinel.Evidence.Alike
import IcttSentinel.Evidence.Codec
import IcttSentinel.Evidence.Replay
import IcttSentinel.InvariantCore.Digest
import IcttSentinel.InvariantCore.Severity
import IcttSentinel.InvariantCore.Solvency
import IcttSentinel.Domain.Finality
import IcttSentinel.Evidence.Binding
import IcttSentinel.Agent.Lanes
import IcttSentinel.Agent.Safety
import IcttSentinel.InvariantCore.Earned
import IcttSentinel.Storage.Conflict
import IcttSentinel.Agent.Configured
import IcttSentinel.Alerts.Budget
import IcttSentinel.Alerts.Healthy
import IcttSentinel.Collector.Answers
import IcttSentinel.Collector.Majority
import IcttSentinel.Adapters.Events
import IcttSentinel.Cli.Configured
import IcttSentinel.Collector.Assembly
import IcttSentinel.Collector.Draft
import IcttSentinel.Evidence.Backing
import IcttSentinel.Collector.Backed
import IcttSentinel.Collector.Measured
import IcttSentinel.Api.Requests
import IcttSentinel.Api.Webhook
import IcttSentinel.Lib.Transactions
import IcttSentinel.Storage.Evaluations
import IcttSentinel.Storage.HostedEvidence
import IcttSentinel.Storage.HostedIngest
import IcttSentinel.Alerts.Drain
import IcttSentinel.Storage.Ingestion
import IcttSentinel.Adapters.Abi
import IcttSentinel.Adapters.Discovery
import IcttSentinel.Adapters.Payload
import IcttSentinel.Adapters.Received
import IcttSentinel.Adapters.Decoders
import IcttSentinel.Agent.Reference
import IcttSentinel.Api.Routes
import IcttSentinel.InvariantCore.Rounding
import IcttSentinel.Replay.Census
import IcttSentinel.Replay.Digests
import IcttSentinel.Replay.Gaps
import IcttSentinel.Replay.Partition
import IcttSentinel.Replay.Strict
import IcttSentinel.Agent.Assembled
import IcttSentinel.StateMachine.Transaction
import IcttSentinel.Cli.Resumption
import IcttSentinel.Adapters.Epochs
import IcttSentinel.Adapters.Drift
import IcttSentinel.Alerts.Folding
import IcttSentinel.Api.Pagination
import IcttSentinel.Api.Isolation
import IcttSentinel.Api.HintKeys
import IcttSentinel.Collector.Frame
import IcttSentinel.Collector.Windows
import IcttSentinel.Config.Redact
import IcttSentinel.Config.Load
import IcttSentinel.Console.Format
import IcttSentinel.Console.Incidents
import IcttSentinel.RpcQuorum.Classes
import IcttSentinel.RpcQuorum.InputOrder
import IcttSentinel.Storage.Transitions
import IcttSentinel.Agent.Freshness
import IcttSentinel.Agent.Observed
import IcttSentinel.Agent.Service
