import FwVerify.Lib.Runs
import FwVerify.Lib.Polling
import FwVerify.Lib.Files
import FwVerify.Lib.Options
import FwVerify.Lib.Text
import FwVerify.Model.Json
import FwVerify.Model.Net
import FwVerify.Model.Catalog
import FwVerify.Model.Peer
import FwVerify.Peer.CommandLine
import FwVerify.Model.Env
import FwVerify.Env.ConfigSafety
import FwVerify.Model.Provision
import FwVerify.Model.RuleSync
import FwVerify.Provision.Freshness
import FwVerify.Model.Verify
import FwVerify.Verify.Judging
import FwVerify.Verify.Soundness
import FwVerify.Lib.Batching
import FwVerify.Model.Runner
import FwVerify.Verify.Batches
import FwVerify.Verify.Failures
import FwVerify.Lib.LastMatch
import FwVerify.Lib.Records
import FwVerify.Model.Attempts
import FwVerify.Rules.Language
import FwVerify.Peer.Verdict
import FwVerify.Rules.Network
import FwVerify.Rules.Bundles
import FwVerify.Rules.CatalogAgreement
import FwVerify.Lib.OnesComplement
import FwVerify.Model.Packets
import FwVerify.Traffic.Checksum
import FwVerify.Traffic.Packets
import FwVerify.Traffic.Scan
import FwVerify.Traffic.SourcePorts
import FwVerify.Lib.Fallible
import FwVerify.Model.Depot
import FwVerify.Provision.DepotWrites
import FwVerify.Lib.Scripts
import FwVerify.Model.Topology
import FwVerify.Env.Convergence
import FwVerify.Env.ConfRoundTrip
import FwVerify.Lib.Readers
import FwVerify.Model.NetParser
import FwVerify.Model.Cli
import FwVerify.Env.SavedTopology
import FwVerify.Model.Monitor
import FwVerify.Model.Report
import FwVerify.Model.Process
import FwVerify.Verify.Accounting
import FwVerify.Lib.Traversals
import FwVerify.Traffic.EchoReplies
import FwVerify.Traffic.Errors
import FwVerify.Lib.TimedPolling
import FwVerify.Provision.Waiting
import FwVerify.Verify.Statistics
import FwVerify.Verify.Strictness
import FwVerify.Verify.Workers
import FwVerify.Env.ConfPrecedence
import FwVerify.Lib.Subcommands
import FwVerify.Model.Arguments
import FwVerify.Env.ConfigScan
import FwVerify.Lib.Checked
import FwVerify.Traffic.EchoMatching
import FwVerify.Env.Subnets
import FwVerify.Lib.Globs
import FwVerify.Provision.Resets
import FwVerify.Model.Exec
import FwVerify.Peer.Output
import FwVerify.Json.RoundTrip
import FwVerify.Lib.Selections
import FwVerify.Model.Decode
import FwVerify.Model.Reexec
import FwVerify.Model.StateDb
import FwVerify.Peer.EndToEnd
import FwVerify.State.Rows
import FwVerify.State.Windows
import FwVerify.Verify.ReportFile
import FwVerify.State.Commands
import FwVerify.State.Reports
import FwVerify.Verify.OnDevice
import FwVerify.Env.Detection
import FwVerify.Env.SavedConfig
import FwVerify.Model.AgentCommand
import FwVerify.Monitor.ArpReplies
import FwVerify.Monitor.Listeners
import FwVerify.Monitor.HeldConnections
import FwVerify.Monitor.OnDevice
import FwVerify.Verify.Conformance
import FwVerify.Model.Preflight
import FwVerify.Env.Preflight
import FwVerify.Provision.VsocDelivery
import FwVerify.Traffic.EchoWire
import FwVerify.Traffic.EchoService
