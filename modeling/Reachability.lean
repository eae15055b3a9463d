import Reachability.Text.Blank
import Reachability.Text.Utf8
import Reachability.Text.Json
import Reachability.Text.Hidden
import Reachability.Text.Quoted
import Reachability.Number.Binary64
import Reachability.Number.Shortest
import Reachability.Number.Fixed
import Reachability.Number.Integer
import Reachability.Time.Calendar
import Reachability.Time.Span
import Reachability.Time.Stamp
import Reachability.Time.Instant
import Reachability.Time.Text
import Reachability.Time.Human
import Reachability.Time.Overflow
import Reachability.Time.Seconds
import Reachability.Files.Volume
import Reachability.Files.Parent
import Reachability.Probe.Observation
import Reachability.Probe.Wire
import Reachability.Probe.Json
import Reachability.History.Request
import Reachability.History.Selection
import Reachability.History.Window
import Reachability.History.Store
import Reachability.History.Service
import Reachability.Yaml.Mark
import Reachability.Yaml.Token
import Reachability.Yaml.Token.Lexer
import Reachability.Yaml.Event
import Reachability.Yaml.Document
import Reachability.Yaml.Decode
import Reachability.Config.Agent
import Reachability.Config.Cluster
import Reachability.Config.Load
import Reachability.CommandLine.Similar
import Reachability.CommandLine.Spec
import Reachability.CommandLine.Report
import Reachability.CommandLine.Help
import Reachability.CommandLine.Parse
import Reachability.Probe.Factory
import Reachability.Probe.Run
import Reachability.Cli.Listing
import Reachability.Cli.Invocation
import Reachability.Agent.Error
import Reachability.Agent.Aggregator
import Reachability.Agent.Registry
import Reachability.Agent.Manager
import Reachability.Agent.Metrics
import Reachability.Agent.Dispatch
import Reachability.Agent.Setup
import Reachability.Main
import Reachability.Proofs.Except
import Reachability.Proofs.Registry
import Reachability.Proofs.Schedule
import Reachability.Proofs.Reconciliation
import Reachability.Proofs.Reload
import Reachability.Proofs.Calendar
import Reachability.Proofs.HourStamp
import Reachability.Proofs.Utf8
import Reachability.Proofs.Wire
import Reachability.Proofs.Volume
import Reachability.Proofs.Listing
import Reachability.Proofs.HourlyStore
import Reachability.Proofs.WindowBounds
import Reachability.Proofs.Aggregation
import Reachability.Proofs.WindowConservation
import Reachability.Proofs.EdgePruning
import Reachability.Proofs.MetricSeries
import Reachability.Proofs.StaleSeries
import Reachability.Proofs.Queries
import Reachability.Proofs.Retention
import Reachability.Proofs.DurationText
import Reachability.Proofs.EdgeHistory
import Reachability.Proofs.EdgeSummaries
import Reachability.Proofs.SettingsCheck
import Reachability.Proofs.PortProbe
import Reachability.Proofs.HourFiles
