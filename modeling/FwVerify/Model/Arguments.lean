import FwVerify.Lib.Subcommands
import FwVerify.Model.Cli
import FwVerify.Model.Worker

/-!
# The argument vector

What the command line accepts: the shared options in front of the subcommand, and behind its name
the options and values of the subcommand itself. Only `--mode` may stand at every level. The
worker's subcommands are one level further down.

## Main definitions

* `GlobalArgs.decls`, `commandTable`, `agentCommandTable` — what is declared, level by level
* `Cli.parse` — reading the arguments behind the program's name
* `Cli.config` — the configuration file they name
* `GlobalArgs.ofCall` — the shared options of a call
-/

set_option autoImplicit false

namespace FwVerify

open Options Text

/-- A path is any text but the empty one. -/
def parsePath (s : String) : Option String := if s = "" then none else some s

def parseI64 (s : String) : Option Int64 := (parseSigned (-2 ^ 63) (2 ^ 63 - 1) s).map Int64.ofInt

/-- Transport for the listener. -/
inductive ListenProto
  | tcp | udp

/-- The transport of a command-line value. -/
def ListenProto.parse : String → Option ListenProto
  | "tcp" => some .tcp
  | "udp" => some .udp
  | _ => none

/-! ## The declarations -/

/-- Rule delivery; the one option that is declared at every level. -/
def modeDecl : OptionDecl := .value "mode" Mode.parse

/-- Shared options. -/
def GlobalArgs.decls : List OptionDecl :=
  [.value "config" parsePath, modeDecl, .value "peer-netns" some, .value "vsoc-cert" some,
    .value "vsoc-key" some, .value "vsoc-cacert" some, .value "target-iface" some,
    .value "peer-iface" some, .value "target-ip" IpAddr.parse, .value "peer-ip" IpAddr.parse,
    .value "veth-prefix" (parseRanged 255), .value "acd" parseI32, .value "fun-fw" parseI32,
    .value "fun-traffic" parseI32, .value "reload-timeout-secs" (parseUnsigned (2 ^ 64)),
    .value "event-settle-ms" (parseUnsigned (2 ^ 64)),
    .value "report-confirm" ReportConfirm.parse, .value "vsoc-url" some, .value "idps-fw" some,
    .value "state-db" some, .value "app-uid" (parseRanged (2 ^ 32 - 1)),
    .value "app-identity-key" some, .value "app-pkg" some, .value "app-name" some,
    .value "report" parsePath, .flag "json"]

/-- A command with options of its own, and the shared one. -/
def withMode (own : List OptionDecl) (positionals : List (String → Bool)) : Command :=
  ⟨modeDecl :: own, positionals⟩

/-- The values of a positional argument. -/
def readsAs {α : Type} (parse : String → Option α) : String → Bool := fun s => (parse s).isSome

/-- The subcommands but `agent`. -/
def commandTable : List (String × Command) :=
  [("setup-env", withMode [] []), ("clean-env", withMode [] []), ("preflight", withMode [] []),
    ("list", withMode [] []), ("run", withMode [] [readsAs some]),
    ("run-group", withMode [] [readsAs some]), ("run-all", withMode [] []),
    ("provision",
      withMode [.value "traffic-cycle" (parseUnsigned (2 ^ 64))] [readsAs parsePath]),
    ("reset-rules", withMode [] []), ("health", withMode [] []), ("stats", withMode [] [])]

/-- `provision-rule` arguments. Its `--config` is the runtime configuration of idps-server. -/
def ProvisionArgs.command : Command :=
  withMode
    [.value "acd" parseI32, .value "fun" parseI32, .value "prot-ver" parseI32,
      .value "ver" parseI32, (OptionDecl.value "input" parsePath).needed,
      .value "config" parsePath, .value "keystore" parsePath] []

/-- Shared arguments for the event and report queries. -/
def EventQueryArgs.command : Command :=
  withMode [.value "db" parsePath, .value "since" parseI64] []

/-- `traffic` arguments. -/
def TrafficArgs.command : Command :=
  withMode
    [(OptionDecl.value "to" IpAddr.parse).needed, .value "dport" (parseRanged (2 ^ 16 - 1)),
      .value "dports" some, .value "sport" (parseRanged (2 ^ 16 - 1)),
      .value "count" (parseRanged (2 ^ 32 - 1)), .value "interval-ms" (parseUnsigned (2 ^ 64)),
      .value "timeout-ms" (parseUnsigned (2 ^ 64)), .flag "await-reply", .flag "fin-only",
      .value "icmp-type" IcmpKind.parse, .value "uid" (parseRanged (2 ^ 32 - 1))]
    [readsAs Proto.parse]

/-- They are the options the worker reads its own command line with. -/
example : arities TrafficArgs.command.decls = ("mode", .value) :: trafficDecls := rfl

/-- `listen` arguments. -/
def ListenArgs.command : Command :=
  withMode
    [(OptionDecl.value "port" (parseRanged (2 ^ 16 - 1))).needed,
      .value "duration-secs" (parseUnsigned (2 ^ 64)), .flag "hold"]
    [readsAs ListenProto.parse]

/-- `conn-flood` arguments. -/
def ConnFloodArgs.command : Command :=
  withMode
    [(OptionDecl.value "to" IpAddr.parse).needed,
      (OptionDecl.value "dport" (parseRanged (2 ^ 16 - 1))).needed,
      .value "count" (parseRanged (2 ^ 32 - 1)), .value "hold-secs" (parseUnsigned (2 ^ 64)),
      .value "timeout-ms" (parseUnsigned (2 ^ 64))] []

/-- `arp-spoof` arguments. -/
def ArpSpoofArgs.command : Command :=
  withMode
    [(OptionDecl.value "iface" some).needed, (OptionDecl.value "claim-ip" Ipv4Addr.parse).needed,
      .value "count" (parseRanged (2 ^ 32 - 1))] []

/-- Arguments for the side-channel report query. -/
def ReportQueryArgs.command : Command :=
  withMode [.value "db" parsePath, .value "since" parseI64, .value "report-type" some] []

/-- The subcommands of `agent`. -/
def agentCommandTable : List (String × Command) :=
  [("provision-rule", ProvisionArgs.command), ("dump-events", EventQueryArgs.command),
    ("report-status", EventQueryArgs.command), ("traffic", TrafficArgs.command),
    ("listen", ListenArgs.command), ("conn-flood", ConnFloodArgs.command),
    ("arp-spoof", ArpSpoofArgs.command), ("dump-reports", ReportQueryArgs.command),
    ("now", withMode [] [])]

/-! ## Reading -/

/-- An argument vector as it is read: the options in front of the subcommand, and behind its
name the rest, with the names of the subcommands and the pieces of the last one. -/
structure Cli where
  globals : List Piece
  rest : List String
  names : List String
  own : List Piece
  deriving DecidableEq

/-- Read the arguments behind the program's name; `none` is a usage error. -/
def Cli.parse (tokens : List String) : Option Cli := do
  let (globals, name, rest) ← parseCommand GlobalArgs.decls tokens
  if name = "agent" then
    let (_, sub, agentRest) ← parseCommand [modeDecl] rest
    let command ← agentCommandTable.lookup sub
    let own ← command.parse agentRest
    return { globals, rest, names := [name, sub], own }
  else
    let command ← commandTable.lookup name
    let own ← command.parse rest
    return { globals, rest, names := [name], own }

/-- The configuration file of the shared options. -/
def Cli.config (cli : Cli) : Option String := (values "config" cli.globals).head?

/-- The command line names a file, and gives the subcommand its own options. -/
example :
    (Cli.parse ["--config", "a.conf", "run", "--mode=host", "ingress_drop"]).map (·.config) =
      some (some "a.conf") := by
  decide

/-! ## The options of a call -/

/-- The variables of the shared options, each with its option. -/
def optionVars : List (String × String) :=
  [("FWV_MODE", "mode"), ("FWV_PEER_NETNS", "peer-netns"), ("FWV_VSOC_CERT", "vsoc-cert"),
    ("FWV_VSOC_KEY", "vsoc-key"), ("FWV_VSOC_CACERT", "vsoc-cacert"),
    ("FWV_TARGET_IFACE", "target-iface"), ("FWV_PEER_IFACE", "peer-iface"),
    ("FWV_TARGET_IP", "target-ip"), ("FWV_PEER_IP", "peer-ip"), ("FWV_VETH_PREFIX", "veth-prefix"),
    ("FWV_ACD", "acd"), ("FWV_FUN_FW", "fun-fw"), ("FWV_FUN_TRAFFIC", "fun-traffic"),
    ("FWV_RELOAD_TIMEOUT_SECS", "reload-timeout-secs"), ("FWV_EVENT_SETTLE_MS", "event-settle-ms"),
    ("FWV_REPORT_CONFIRM", "report-confirm"), ("FWV_VSOC_URL", "vsoc-url"),
    ("FWV_IDPS_FW", "idps-fw"), ("FWV_STATE_DB", "state-db"), ("FWV_APP_UID", "app-uid"),
    ("FWV_APP_IDENTITY_KEY", "app-identity-key"), ("FWV_APP_PKG", "app-pkg"),
    ("FWV_APP_NAME", "app-name")]

/-- Every variable is of a declared option. -/
example : ∀ entry ∈ optionVars, (arities GlobalArgs.decls).lookup entry.2 = some .value := by decide

/-- The environment in which each option of the command line stands in its variable. -/
def Cli.overlay (cli : Cli) (env : EnvVars) : EnvVars := fun var =>
  ((optionVars.lookup var).bind fun name => (values name cli.globals).head?).or (env var)

/-- The shared options of a call with one subcommand. An option of the command line goes before its
variable, and that before the default. -/
def GlobalArgs.ofCall (cli : Cli) (env : EnvVars) : Option GlobalArgs := do
  let global ← GlobalArgs.ofEnv cli.config (cli.overlay env)
  -- the subcommand has a `--mode` as well, and without one it reads the variable again
  let own ← match (values "mode" cli.own).head? with
    | some text => (Mode.parse text).map some
    | none => (envArg env "FWV_MODE" Mode.parse).map fun _ => none
  return { global with
    mode := own.getD global.mode
    report := (values "report" cli.globals).head?
    json := flagCount "json" cli.globals != 0 }

/-- The mode of the command line goes before that of the environment. -/
example :
    ((Cli.parse ["--mode", "android", "--json", "run-all"]).bind fun cli =>
      GlobalArgs.ofCall cli fun var => if var = "FWV_MODE" then some "host" else none) =
      some { GlobalArgs.default with mode := .android, json := true } := by
  rfl

end FwVerify
