import FwVerify.Model.Arguments
import FwVerify.Model.Arp
import FwVerify.Model.Connections
import FwVerify.Model.Depot

/-!
# The worker's command line

What the worker is told to do: the subcommand behind `agent`, with its arguments as values of their
types and the declared defaults for those that are not given. The orchestrator writes such a command
line for every worker it starts.

## Main definitions

* `ProvisionArgs`, `EventQueryArgs`, `ReportQueryArgs` — the arguments of the other subcommands
* `AgentCommand.parse` — what a command line tells the worker
* `startListenerArgs` — the command line of a listener
-/

set_option autoImplicit false

namespace FwVerify

open Options Text

/-! ## Values of options -/

/-- A `u16`, by way of `i64`. -/
def rangedU16 (s : String) : Option UInt16 := (parseRanged (2 ^ 16 - 1) s).map UInt16.ofNat

/-- A `u32`, by way of `i64`. -/
def rangedU32 (s : String) : Option UInt32 := (parseRanged (2 ^ 32 - 1) s).map UInt32.ofNat

section Values

variable {α : Type} (read : String → Option α) (name : String) (pieces : List Piece)

/-- The value of an option that has to be given. -/
def givenValue : Option α := do (← optValue name pieces) >>= read

/-- The value of an option, or its default. -/
def valueOr (default : α) : Option α := do
  return (← readOpt read (← optValue name pieces)).getD default

end Values

/-! ## Arguments -/

/-- `provision-rule` arguments. -/
structure ProvisionArgs where
  acd : Int32
  fun_ : Int32
  protVer : Int32
  ver : Option Int32
  input : String
  config : String
  keystore : String
  deriving DecidableEq

/-- Arguments of the event queries. -/
structure EventQueryArgs where
  db : String
  since : Int64
  deriving DecidableEq

/-- Arguments of the report query. -/
structure ReportQueryArgs where
  db : String
  since : Int64
  reportType : Option String
  deriving DecidableEq

/-- The state database of idps-fw, unless another one is given. -/
def defaultStateDb : String := "/data/idd/idps-fw/state.sqlite3"

def ProvisionArgs.ofPieces (pieces : List Piece) : Option ProvisionArgs := do
  let acd ← valueOr parseI32 "acd" pieces 1
  let fun_ ← valueOr parseI32 "fun" pieces 1
  let protVer ← valueOr parseI32 "prot-ver" pieces 1
  let ver ← readOpt parseI32 (← optValue "ver" pieces)
  let input ← givenValue parsePath "input" pieces
  let config ← valueOr parsePath "config" pieces defaultConfig
  let keystore ← valueOr parsePath "keystore" pieces defaultKeystore
  return { acd, fun_, protVer, ver, input, config, keystore }

def EventQueryArgs.ofPieces (pieces : List Piece) : Option EventQueryArgs := do
  let db ← valueOr parsePath "db" pieces defaultStateDb
  let since ← valueOr parseI64 "since" pieces 0
  return { db, since }

def ReportQueryArgs.ofPieces (pieces : List Piece) : Option ReportQueryArgs := do
  let db ← valueOr parsePath "db" pieces defaultStateDb
  let since ← valueOr parseI64 "since" pieces 0
  let reportType ← optValue "report-type" pieces
  return { db, since, reportType }

def ListenArgs.ofPieces (pieces : List Piece) : Option ListenArgs := do
  let proto ← match positionals pieces with
    | [value] => ListenProto.parse value
    | _ => none
  let port ← givenValue rangedU16 "port" pieces
  let durationSecs ← valueOr parseU64 "duration-secs" pieces 60
  let hold ← flagSet "hold" pieces
  return { proto, port, durationSecs, hold }

def ConnFloodArgs.ofPieces (pieces : List Piece) : Option ConnFloodArgs := do
  let toAddr ← givenValue IpAddr.parse "to" pieces
  let dport ← givenValue rangedU16 "dport" pieces
  let count ← valueOr rangedU32 "count" pieces 60
  let holdSecs ← valueOr parseU64 "hold-secs" pieces 15
  let timeoutMs ← valueOr parseU64 "timeout-ms" pieces 2000
  return { toAddr, dport, count, holdSecs, timeoutMs }

def ArpSpoofArgs.ofPieces (pieces : List Piece) : Option ArpSpoofArgs := do
  let iface ← givenValue some "iface" pieces
  let claimIp ← givenValue Ipv4Addr.parse "claim-ip" pieces
  let count ← valueOr rangedU32 "count" pieces 5
  return { iface, claimIp, count }

/-! ## Commands -/

/-- Worker subcommands. -/
inductive AgentCommand
  | provisionRule (args : ProvisionArgs)
  | dumpEvents (args : EventQueryArgs)
  | reportStatus (args : EventQueryArgs)
  | traffic (args : TrafficArgs)
  | listen (args : ListenArgs)
  | connFlood (args : ConnFloodArgs)
  | arpSpoof (args : ArpSpoofArgs)
  | dumpReports (args : ReportQueryArgs)
  | now

namespace AgentCommand

/-- The subcommand of a name, with the arguments its pieces give. -/
def ofPieces (name : String) (pieces : List Piece) : Option AgentCommand :=
  match name with
  | "provision-rule" => (ProvisionArgs.ofPieces pieces).map provisionRule
  | "dump-events" => (EventQueryArgs.ofPieces pieces).map dumpEvents
  | "report-status" => (EventQueryArgs.ofPieces pieces).map reportStatus
  | "traffic" => (TrafficArgs.ofPieces IpAddr.parse pieces).map traffic
  | "listen" => (ListenArgs.ofPieces pieces).map listen
  | "conn-flood" => (ConnFloodArgs.ofPieces pieces).map connFlood
  | "arp-spoof" => (ArpSpoofArgs.ofPieces pieces).map arpSpoof
  | "dump-reports" => (ReportQueryArgs.ofPieces pieces).map dumpReports
  | "now" => some now
  | _ => none

/-- Read the arguments behind the program's name as a command for the worker; `none` is a usage
error, or no such command. -/
def parse (tokens : List String) : Option AgentCommand := do
  let cli ← Cli.parse tokens
  match cli.names with
  | ["agent", name] => ofPieces name cli.own
  | _ => none

end AgentCommand

/-! ## The orchestrator's command lines -/

/-- How long the listeners of a case run. -/
def listenSecs : UInt64 := 12

/-- A listener on a port. -/
def startListenerArgs (proto : String) (port : UInt16) (durationSecs : UInt64) : List String :=
  ["listen", proto, "--port", toString port, "--duration-secs", toString durationSecs]

/-- The arguments of a re-executed worker, behind the program's name. -/
def agentArgs (args : List String) : List String := "agent" :: args

end FwVerify
