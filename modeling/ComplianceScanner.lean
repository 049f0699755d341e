import ComplianceScanner.Cache.Basic
import ComplianceScanner.Cache.Entry
import ComplianceScanner.Cache.Set
import ComplianceScanner.Check.BuiltIn
import ComplianceScanner.Check.Evaluation
import ComplianceScanner.Check.Image
import ComplianceScanner.Check.PodTemplate
import ComplianceScanner.Check.Quantity
import ComplianceScanner.Check.Scope
import ComplianceScanner.Cluster.Basic
import ComplianceScanner.Cluster.Discovery
import ComplianceScanner.Cluster.Namespaces
import ComplianceScanner.Cluster.Paging
import ComplianceScanner.CommandLine.Address
import ComplianceScanner.CommandLine.Arguments
import ComplianceScanner.CommandLine.Command
import ComplianceScanner.CommandLine.Execution
import ComplianceScanner.CommandLine.Setting
import ComplianceScanner.CommandLine.Usage
import ComplianceScanner.Config.Backoff
import ComplianceScanner.Config.Document
import ComplianceScanner.Config.Scanner
import ComplianceScanner.Decimal.Layout
import ComplianceScanner.Decimal.Shortest
import ComplianceScanner.Engine.Basic
import ComplianceScanner.Engine.Checks
import ComplianceScanner.Engine.Gauge
import ComplianceScanner.Engine.Watcher
import ComplianceScanner.Error.Basic
import ComplianceScanner.Error.Cluster
import ComplianceScanner.Error.Config
import ComplianceScanner.Json.Basic
import ComplianceScanner.Json.Number
import ComplianceScanner.Json.Printer
import ComplianceScanner.Json.Reader
import ComplianceScanner.Json.Token
import ComplianceScanner.Kubernetes.Client
import ComplianceScanner.Kubernetes.Document
import ComplianceScanner.Kubernetes.Http
import ComplianceScanner.Kubernetes.Version
import ComplianceScanner.Main
import ComplianceScanner.Metrics.Basic
import ComplianceScanner.Metrics.Exposition
import ComplianceScanner.Metrics.Histogram
import ComplianceScanner.Pattern.Brackets
import ComplianceScanner.Pattern.CharSet
import ComplianceScanner.Pattern.Cursor
import ComplianceScanner.Pattern.Escape
import ComplianceScanner.Pattern.Expr
import ComplianceScanner.Pattern.Matching
import ComplianceScanner.Pattern.Reader
import ComplianceScanner.Probe.Route
import ComplianceScanner.Probe.Server
import ComplianceScanner.Proofs.Alike
import ComplianceScanner.Proofs.AtRest
import ComplianceScanner.Proofs.Attempts
import ComplianceScanner.Proofs.Balance
import ComplianceScanner.Proofs.BrokenOff
import ComplianceScanner.Proofs.CachedObjects
import ComplianceScanner.Proofs.Calm
import ComplianceScanner.Proofs.Changes
import ComplianceScanner.Proofs.Completed
import ComplianceScanner.Proofs.Counters
import ComplianceScanner.Proofs.Course
import ComplianceScanner.Proofs.Coverage
import ComplianceScanner.Proofs.Deeds
import ComplianceScanner.Proofs.Discovered
import ComplianceScanner.Proofs.Dropped
import ComplianceScanner.Proofs.Entries
import ComplianceScanner.Proofs.Failures
import ComplianceScanner.Proofs.Fates
import ComplianceScanner.Proofs.Grounded
import ComplianceScanner.Proofs.History
import ComplianceScanner.Proofs.ImageReferences
import ComplianceScanner.Proofs.InUse
import ComplianceScanner.Proofs.Interleaving
import ComplianceScanner.Proofs.Journal
import ComplianceScanner.Proofs.Judged
import ComplianceScanner.Proofs.Layout
import ComplianceScanner.Proofs.Listed
import ComplianceScanner.Proofs.MetricsPaths
import ComplianceScanner.Proofs.Mirrored
import ComplianceScanner.Proofs.Nulls
import ComplianceScanner.Proofs.Oblivious
import ComplianceScanner.Proofs.Observations
import ComplianceScanner.Proofs.Outcomes
import ComplianceScanner.Proofs.Owners
import ComplianceScanner.Proofs.Postings
import ComplianceScanner.Proofs.Published
import ComplianceScanner.Proofs.Pulled
import ComplianceScanner.Proofs.Quantities
import ComplianceScanner.Proofs.Quiescence
import ComplianceScanner.Proofs.Reached
import ComplianceScanner.Proofs.Readiness
import ComplianceScanner.Proofs.Rearranged
import ComplianceScanner.Proofs.Reconciled
import ComplianceScanner.Proofs.Recorded
import ComplianceScanner.Proofs.Reloads
import ComplianceScanner.Proofs.Removals
import ComplianceScanner.Proofs.Requests
import ComplianceScanner.Proofs.Rescan
import ComplianceScanner.Proofs.Retries
import ComplianceScanner.Proofs.Routes
import ComplianceScanner.Proofs.Series
import ComplianceScanner.Proofs.Settings
import ComplianceScanner.Proofs.Settled
import ComplianceScanner.Proofs.Silenced
import ComplianceScanner.Proofs.Snapshots
import ComplianceScanner.Proofs.Survey
import ComplianceScanner.Proofs.Surveyed
import ComplianceScanner.Proofs.Sweep
import ComplianceScanner.Proofs.Tallies
import ComplianceScanner.Proofs.Templates
import ComplianceScanner.Proofs.Tracked
import ComplianceScanner.Proofs.Uncounted
import ComplianceScanner.Proofs.Verdicts
import ComplianceScanner.Proofs.VersionMoves
import ComplianceScanner.Proofs.Watched
import ComplianceScanner.Release
import ComplianceScanner.Resource.Identity
import ComplianceScanner.Resource.Object
import ComplianceScanner.Resource.Type
import ComplianceScanner.Schedule.Cycle
import ComplianceScanner.Schedule.Listing
import ComplianceScanner.Schedule.Report
import ComplianceScanner.Schedule.Run
import ComplianceScanner.Schedule.State
import ComplianceScanner.Selection.Basic
import ComplianceScanner.Selection.Document
import ComplianceScanner.Selection.File
import ComplianceScanner.Simulation.RepliedListing
import ComplianceScanner.Simulation.Scenario
import ComplianceScanner.Simulation.ScriptedCluster
import ComplianceScanner.Simulation.StandIn
import ComplianceScanner.Simulation.Timeline
import ComplianceScanner.Text.Blank
import ComplianceScanner.Text.Quoted
import ComplianceScanner.Time.Duration
import ComplianceScanner.Time.Jitter
import ComplianceScanner.Time.Timestamp
import ComplianceScanner.Unicode.Category
import ComplianceScanner.Unicode.Folding
import ComplianceScanner.Unicode.Property
import ComplianceScanner.Unicode.Run
import ComplianceScanner.Unicode.Script
import ComplianceScanner.Yaml.Cursor
import ComplianceScanner.Yaml.Document
import ComplianceScanner.Yaml.Node
import ComplianceScanner.Yaml.Property
import ComplianceScanner.Yaml.Scalar
import ComplianceScanner.Yaml.Scanner
import ComplianceScanner.Yaml.Token
