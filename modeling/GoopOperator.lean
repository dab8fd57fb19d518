import GoopOperator.Api.Request
import GoopOperator.Api.Response
import GoopOperator.Api.Server
import GoopOperator.Api.Target
import GoopOperator.CommandLine.Execution
import GoopOperator.CommandLine.Invocation
import GoopOperator.CommandLine.Syntax
import GoopOperator.Condition
import GoopOperator.CustomResource
import GoopOperator.DaemonSet.Manifest
import GoopOperator.DaemonSet.Observed
import GoopOperator.Dispatch
import GoopOperator.Goop
import GoopOperator.Image
import GoopOperator.Json.Basic
import GoopOperator.Json.Printer
import GoopOperator.Json.Reader
import GoopOperator.Json.Record
import GoopOperator.Json.Token
import GoopOperator.Ledger
import GoopOperator.Lifecycle
import GoopOperator.Main
import GoopOperator.Metadata
import GoopOperator.Metric
import GoopOperator.ObjectKey
import GoopOperator.Pass.Basic
import GoopOperator.Pass.Error
import GoopOperator.Pass.Observed
import GoopOperator.Pass.Stage
import GoopOperator.Pass.Timed
import GoopOperator.Proofs.Api.Encoding
import GoopOperator.Proofs.Api.Rollout
import GoopOperator.Proofs.Api.Target
import GoopOperator.Proofs.Api.Transport
import GoopOperator.Proofs.Json.Metadata
import GoopOperator.Proofs.Json.Resources
import GoopOperator.Proofs.Json.Text
import GoopOperator.Proofs.Ledger.History
import GoopOperator.Proofs.Ledger.Lifeline
import GoopOperator.Proofs.Ledger.Recording
import GoopOperator.Proofs.Lifecycle.Alike
import GoopOperator.Proofs.Lifecycle.Calls
import GoopOperator.Proofs.Lifecycle.Completion
import GoopOperator.Proofs.Lifecycle.Convergence
import GoopOperator.Proofs.Lifecycle.Deadline
import GoopOperator.Proofs.Lifecycle.Discipline
import GoopOperator.Proofs.Lifecycle.Failure
import GoopOperator.Proofs.Lifecycle.Healing
import GoopOperator.Proofs.Lifecycle.Locality
import GoopOperator.Proofs.Lifecycle.Outcome
import GoopOperator.Proofs.Lifecycle.Parting
import GoopOperator.Proofs.Lifecycle.Permits
import GoopOperator.Proofs.Lifecycle.Rest
import GoopOperator.Proofs.Lifecycle.Run
import GoopOperator.Proofs.Lifecycle.Stall
import GoopOperator.Proofs.Pass.Alike
import GoopOperator.Proofs.Pass.Alone
import GoopOperator.Proofs.Pass.Path
import GoopOperator.Proofs.Pass.Quiet
import GoopOperator.Proofs.Pass.Truncation
import GoopOperator.Proofs.Store.Blur
import GoopOperator.Proofs.Store.Blurred
import GoopOperator.Proofs.Store.Portable
import GoopOperator.Proofs.Store.Refusals
import GoopOperator.Proofs.Store.Scene
import GoopOperator.Proofs.Store.Workloads
import GoopOperator.Proofs.Store.Writes
import GoopOperator.Proofs.Text.Utf8
import GoopOperator.Proofs.Time.Stamp
import GoopOperator.Proofs.World.Adoption
import GoopOperator.Proofs.World.Alone
import GoopOperator.Proofs.World.Basic
import GoopOperator.Proofs.World.Coherence
import GoopOperator.Proofs.World.Creation
import GoopOperator.Proofs.World.Deletion
import GoopOperator.Proofs.World.Delivery
import GoopOperator.Proofs.World.Departure
import GoopOperator.Proofs.World.LedgerGrowth
import GoopOperator.Proofs.World.Lifetime
import GoopOperator.Proofs.World.Moments
import GoopOperator.Proofs.World.Ownership
import GoopOperator.Proofs.World.Quiescence
import GoopOperator.Proofs.World.Release
import GoopOperator.Proofs.World.Serial
import GoopOperator.Proofs.World.Succession
import GoopOperator.Proofs.World.Versions
import GoopOperator.Reconcile
import GoopOperator.Settings
import GoopOperator.Store.Basic
import GoopOperator.Store.Memory
import GoopOperator.Store.Table
import GoopOperator.StringMap
import GoopOperator.Text.Blank
import GoopOperator.Text.Numeral
import GoopOperator.Text.Quoted
import GoopOperator.Text.Unseen
import GoopOperator.Text.Utf8
import GoopOperator.Time.Duration
import GoopOperator.Time.Timestamp
import GoopOperator.Workload
import GoopOperator.Workload.Plan
import GoopOperator.Yaml
import GoopOperator.Proofs.ObjectKey
import GoopOperator.Proofs.Workload.Labels
import GoopOperator.Proofs.Environment
import GoopOperator.Proofs.Workload.Image
import GoopOperator.Proofs.Workload.Selector
import GoopOperator.Proofs.Workload.LabelValue
