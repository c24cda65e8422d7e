import ClusterGateway.Acl.List
import ClusterGateway.Acl.Trie
import ClusterGateway.Balance.Balancer
import ClusterGateway.Balance.Ring
import ClusterGateway.Balance.RoundRobin
import ClusterGateway.Balance.Xxh3
import ClusterGateway.Clock.Agenda
import ClusterGateway.CommandLine.Help
import ClusterGateway.CommandLine.Outcome
import ClusterGateway.CommandLine.Request
import ClusterGateway.Config.Basic
import ClusterGateway.Config.Load
import ClusterGateway.Config.Review
import ClusterGateway.Control.Plane
import ClusterGateway.Dict
import ClusterGateway.Drain
import ClusterGateway.Fault
import ClusterGateway.Identity
import ClusterGateway.Idna.Composed
import ClusterGateway.Idna.CompositionRows
import ClusterGateway.Idna.Domain
import ClusterGateway.Idna.Mapping
import ClusterGateway.Idna.MappingRows
import ClusterGateway.Idna.PropertyRows
import ClusterGateway.Idna.Punycode
import ClusterGateway.Idna.Rows
import ClusterGateway.Json.Reader
import ClusterGateway.Json.Record
import ClusterGateway.Json.Value
import ClusterGateway.Json.Writer
import ClusterGateway.Limit.Counter
import ClusterGateway.Limit.Gate
import ClusterGateway.Limit.Limiter
import ClusterGateway.Limit.Setting
import ClusterGateway.Location.Backend
import ClusterGateway.Location.Basic
import ClusterGateway.Location.Pattern
import ClusterGateway.Logging
import ClusterGateway.Main
import ClusterGateway.Metrics
import ClusterGateway.Net.Address
import ClusterGateway.Net.Network
import ClusterGateway.Node.Basic
import ClusterGateway.Pool.Admission
import ClusterGateway.Pool.Basic
import ClusterGateway.Pool.Check
import ClusterGateway.Proofs.Acl.Agreement
import ClusterGateway.Proofs.Acl.Arena
import ClusterGateway.Proofs.Acl.Compact
import ClusterGateway.Proofs.Acl.Denial
import ClusterGateway.Proofs.Acl.Match
import ClusterGateway.Proofs.Acl.Rebuilding
import ClusterGateway.Proofs.Acl.Reuse
import ClusterGateway.Proofs.Balance.Disruption
import ClusterGateway.Proofs.Balance.Presence
import ClusterGateway.Proofs.Balance.Ring
import ClusterGateway.Proofs.Balance.Rotation
import ClusterGateway.Proofs.Config.Review
import ClusterGateway.Proofs.Control.Acceptance
import ClusterGateway.Proofs.Control.Bootstrap
import ClusterGateway.Proofs.Control.Lookup
import ClusterGateway.Proofs.Control.Site
import ClusterGateway.Proofs.Control.Stop
import ClusterGateway.Proofs.Control.Writes
import ClusterGateway.Proofs.Dictionary
import ClusterGateway.Proofs.Drain
import ClusterGateway.Proofs.Idna.Plain
import ClusterGateway.Proofs.Idna.Tables
import ClusterGateway.Proofs.Json.Compound
import ClusterGateway.Proofs.Json.Document
import ClusterGateway.Proofs.Json.Outcome
import ClusterGateway.Proofs.Json.Scalar
import ClusterGateway.Proofs.Limit.Crowd
import ClusterGateway.Proofs.Limit.Custody
import ClusterGateway.Proofs.Limit.Reading
import ClusterGateway.Proofs.Limit.Steps
import ClusterGateway.Proofs.Limit.Wakeups
import ClusterGateway.Proofs.Net.Canonical
import ClusterGateway.Proofs.Net.Written
import ClusterGateway.Proofs.Pool.Life
import ClusterGateway.Proofs.Pool.Limits
import ClusterGateway.Proofs.Pool.Liveness
import ClusterGateway.Proofs.Pool.Outline
import ClusterGateway.Proofs.Pool.Permits
import ClusterGateway.Proofs.Pool.Vigil
import ClusterGateway.Proofs.Replication.Agreement
import ClusterGateway.Proofs.Replication.Answers
import ClusterGateway.Proofs.Replication.CatchUp
import ClusterGateway.Proofs.Replication.Configuration
import ClusterGateway.Proofs.Replication.Delivery
import ClusterGateway.Proofs.Replication.Divergence
import ClusterGateway.Proofs.Replication.EntryCodec
import ClusterGateway.Proofs.Replication.Envelope
import ClusterGateway.Proofs.Replication.InPlace
import ClusterGateway.Proofs.Replication.Interleaving
import ClusterGateway.Proofs.Replication.Metering
import ClusterGateway.Proofs.Replication.NormalForm
import ClusterGateway.Proofs.Replication.Positions
import ClusterGateway.Proofs.Replication.Rebuild
import ClusterGateway.Proofs.Replication.Refusal
import ClusterGateway.Proofs.Replication.Replica
import ClusterGateway.Proofs.Replication.SnapshotCodec
import ClusterGateway.Proofs.Replication.Upkeep
import ClusterGateway.Proofs.Route.Affinity
import ClusterGateway.Proofs.Route.Coherence
import ClusterGateway.Proofs.Route.Continuity
import ClusterGateway.Proofs.Route.Counts
import ClusterGateway.Proofs.Route.Draining
import ClusterGateway.Proofs.Route.Enforcement
import ClusterGateway.Proofs.Route.InFlight
import ClusterGateway.Proofs.Route.Isolation
import ClusterGateway.Proofs.Route.Limits
import ClusterGateway.Proofs.Route.LongestPrefix
import ClusterGateway.Proofs.Route.Operations
import ClusterGateway.Proofs.Route.Patterns
import ClusterGateway.Proofs.Route.Pools
import ClusterGateway.Proofs.Route.Removal
import ClusterGateway.Proofs.Route.Rest
import ClusterGateway.Proofs.Route.Runs
import ClusterGateway.Proofs.Text.Date
import ClusterGateway.Proofs.Text.Decimal
import ClusterGateway.Proofs.Text.Octets
import ClusterGateway.Proofs.Url.Host
import ClusterGateway.Proofs.Url.Key
import ClusterGateway.Replication.Consensus
import ClusterGateway.Replication.Entry
import ClusterGateway.Replication.Machine
import ClusterGateway.Replication.Snapshot
import ClusterGateway.Replication.Storage
import ClusterGateway.Route.Dispatch
import ClusterGateway.Route.Router
import ClusterGateway.Route.Table
import ClusterGateway.Simulation.Basic
import ClusterGateway.Simulation.Service
import ClusterGateway.Text
import ClusterGateway.Timestamp
import ClusterGateway.Toml.Document
import ClusterGateway.Toml.Item
import ClusterGateway.Toml.Number
import ClusterGateway.Toml.Quoted
import ClusterGateway.Toml.Value
import ClusterGateway.Url.Basic
import ClusterGateway.Url.Host
import ClusterGateway.Url.Percent
