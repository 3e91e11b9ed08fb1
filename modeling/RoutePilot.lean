import RoutePilot.A2A.Backend
import RoutePilot.A2A.Contract
import RoutePilot.A2A.Listing
import RoutePilot.A2A.Play
import RoutePilot.A2A.Postgres
import RoutePilot.A2A.Service
import RoutePilot.A2A.Subscribe
import RoutePilot.A2A.System
import RoutePilot.A2A.Tasks
import RoutePilot.Api.Stream
import RoutePilot.Contracts.Brief
import RoutePilot.Contracts.Calendar
import RoutePilot.Contracts.Common
import RoutePilot.Contracts.Plan
import RoutePilot.Contracts.Reports
import RoutePilot.Contracts.Sources
import RoutePilot.Intake.Factory
import RoutePilot.Intake.Pipeline
import RoutePilot.Intake.Request
import RoutePilot.Knowledge.Memory
import RoutePilot.Knowledge.Models
import RoutePilot.Knowledge.Pipeline
import RoutePilot.Knowledge.Postgres
import RoutePilot.Knowledge.Request
import RoutePilot.Knowledge.Retrieval
import RoutePilot.Knowledge.Specs
import RoutePilot.Knowledge.Text
import RoutePilot.Knowledge.World
import RoutePilot.Lib.Base64
import RoutePilot.Lib.Binary64
import RoutePilot.Lib.Co
import RoutePilot.Lib.CoRuns
import RoutePilot.Lib.Cost
import RoutePilot.Lib.Cycle
import RoutePilot.Lib.Decimal
import RoutePilot.Lib.DecimalOrder
import RoutePilot.Lib.Delimited
import RoutePilot.Lib.Dict
import RoutePilot.Lib.Durable
import RoutePilot.Lib.EState
import RoutePilot.Lib.Framing
import RoutePilot.Lib.History
import RoutePilot.Lib.Keyset
import RoutePilot.Lib.Limiter
import RoutePilot.Lib.Lts
import RoutePilot.Lib.Pieces
import RoutePilot.Lib.Procs
import RoutePilot.Lib.RankFusion
import RoutePilot.Lib.SlidingLog
import RoutePilot.Lib.Strip
import RoutePilot.Lib.Utf8
import RoutePilot.Migration.Backfill
import RoutePilot.Migration.Records
import RoutePilot.Migration.Sources
import RoutePilot.Migration.Target
import RoutePilot.Migration.Verify
import RoutePilot.Model.Canonical
import RoutePilot.Model.Entities
import RoutePilot.Model.Json
import RoutePilot.Model.JsonText
import RoutePilot.Model.RunInput
import RoutePilot.Model.TimeText
import RoutePilot.Outbox.Model
import RoutePilot.Planning.Built
import RoutePilot.Planning.Catalog
import RoutePilot.Planning.Checked
import RoutePilot.Planning.Patched
import RoutePilot.Planning.Planner
import RoutePilot.Planning.Replan
import RoutePilot.Planning.Schedule
import RoutePilot.Planning.Validation
import RoutePilot.Postgres.ArtifactSpecs
import RoutePilot.Postgres.Artifacts
import RoutePilot.Postgres.Log
import RoutePilot.Postgres.Ops
import RoutePilot.Postgres.Publication
import RoutePilot.Postgres.Readers
import RoutePilot.Postgres.RunSpecs
import RoutePilot.Postgres.Runs
import RoutePilot.Postgres.State
import RoutePilot.Proof.Agreement
import RoutePilot.Proof.Atomicity
import RoutePilot.Proof.Backfill
import RoutePilot.Proof.Boundary
import RoutePilot.Proof.Browser
import RoutePilot.Proof.Budget
import RoutePilot.Proof.ChunkText
import RoutePilot.Proof.Chunks
import RoutePilot.Proof.Closing
import RoutePilot.Proof.Commands
import RoutePilot.Proof.Discipline
import RoutePilot.Proof.DocumentPages
import RoutePilot.Proof.DraftStorage
import RoutePilot.Proof.EventFilter
import RoutePilot.Proof.EventLog
import RoutePilot.Proof.Follow
import RoutePilot.Proof.FormBudget
import RoutePilot.Proof.Gate
import RoutePilot.Proof.Idempotency
import RoutePilot.Proof.InertText
import RoutePilot.Proof.Intake
import RoutePilot.Proof.Inventory
import RoutePilot.Proof.KnowledgeRetrieval
import RoutePilot.Proof.KnowledgeRetry
import RoutePilot.Proof.KnowledgeScope
import RoutePilot.Proof.Lease
import RoutePilot.Proof.LoginFlow
import RoutePilot.Proof.LostUpdate
import RoutePilot.Proof.Outbox
import RoutePilot.Proof.Outcome
import RoutePilot.Proof.Placing
import RoutePilot.Proof.Projection
import RoutePilot.Proof.ProviderBatches
import RoutePilot.Proof.ProviderCircuit
import RoutePilot.Proof.ProviderCost
import RoutePilot.Proof.ProviderIsolation
import RoutePilot.Proof.ProviderQuota
import RoutePilot.Proof.Publication
import RoutePilot.Proof.RankFusion
import RoutePilot.Proof.Readers
import RoutePilot.Proof.Reconciled
import RoutePilot.Proof.RefreshCookie
import RoutePilot.Proof.Replan
import RoutePilot.Proof.Reporting
import RoutePilot.Proof.ResumeInput
import RoutePilot.Proof.ShareAccess
import RoutePilot.Proof.ShareLimit
import RoutePilot.Proof.ShareParity
import RoutePilot.Proof.ShareSecrets
import RoutePilot.Proof.StatusCommands
import RoutePilot.Proof.Stream
import RoutePilot.Proof.StreamRoundTrip
import RoutePilot.Proof.Subscription
import RoutePilot.Proof.TaskFence
import RoutePilot.Proof.TaskInput
import RoutePilot.Proof.TaskLifecycle
import RoutePilot.Proof.TaskPages
import RoutePilot.Proof.Terminal
import RoutePilot.Proof.Timing
import RoutePilot.Proof.Totals
import RoutePilot.Proof.Waiting
import RoutePilot.Provider.Amap
import RoutePilot.Provider.Execute
import RoutePilot.Provider.Gateway
import RoutePilot.Provider.Model
import RoutePilot.Provider.Play
import RoutePilot.Provider.Specs
import RoutePilot.Provider.World
import RoutePilot.Runtime.Coordinator
import RoutePilot.Runtime.Effects
import RoutePilot.Runtime.Events
import RoutePilot.Runtime.Play
import RoutePilot.Runtime.Pool
import RoutePilot.Runtime.Worker
import RoutePilot.Runtime.World
import RoutePilot.Runtime.Writes
import RoutePilot.Share.Branch
import RoutePilot.Share.Desk
import RoutePilot.Share.Effect
import RoutePilot.Share.Guard
import RoutePilot.Share.Memory
import RoutePilot.Share.Model
import RoutePilot.Share.Play
import RoutePilot.Share.Postgres
import RoutePilot.Share.Refine
import RoutePilot.Share.World
import RoutePilot.Spec.Backend
import RoutePilot.Spec.EventLog
import RoutePilot.Spec.Idempotency
import RoutePilot.Spec.Knowledge
import RoutePilot.Spec.Lease
import RoutePilot.Spec.Planning
import RoutePilot.Spec.Publication
import RoutePilot.Spec.Readers
import RoutePilot.Spec.RunBackend
import RoutePilot.Spec.RunLog
import RoutePilot.Spec.Sharing
import RoutePilot.Store.Access
import RoutePilot.Store.ArtifactSpecs
import RoutePilot.Store.Artifacts
import RoutePilot.Store.Log
import RoutePilot.Store.Ops
import RoutePilot.Store.Publication
import RoutePilot.Store.Readers
import RoutePilot.Store.RunSpecs
import RoutePilot.Store.Runs
import RoutePilot.Store.State
import RoutePilot.Store.Trips
import RoutePilot.Store.Versions
import RoutePilot.Web.Commands
import RoutePilot.Web.DraftStorage
import RoutePilot.Web.EventFilter
import RoutePilot.Web.JsText
import RoutePilot.Web.LoginFlow
import RoutePilot.Web.Oidc
import RoutePilot.Web.PublicEvent
import RoutePilot.Web.Reducer
import RoutePilot.Web.Sse
import RoutePilot.Web.TripForm
