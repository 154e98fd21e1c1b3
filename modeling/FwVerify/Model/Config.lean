import FwVerify.Model.Net

/-!
# Options and run configuration

The shared command-line options and the configuration a run resolves them to. The two sides
of a test are the local root namespace (the TARGET) and the far veth end inside a network
namespace (the PEER); the only mode-dependent piece is how rules are delivered.
-/

set_option autoImplicit false

namespace FwVerify

/-- How firewall rules are delivered to idps-fw. -/
inductive Mode
  | android
  | host
  deriving DecidableEq, Repr

/-- The lower-cased debug name of a mode. -/
def Mode.lowercase : Mode → String
  | .android => "android"
  | .host => "host"

/-- How thoroughly to confirm that an event reached idps-server. -/
inductive ReportConfirm
  | local
  | server
  | vsoc
  deriving DecidableEq, Repr

/-- One side of a test and how commands are run on it. -/
inductive Endpoint
  | local
  | netns (name : String)
  deriving DecidableEq, Repr

/-- VSOC dashboard connection details for host-mode rule delivery. -/
structure VsocApi where
  baseUrl : String
  cert : Option String
  key : Option String
  cacert : Option String
  deriving DecidableEq, Repr

/-- The options shared by every subcommand, after defaults. -/
structure GlobalArgs where
  config : Option String
  mode : Mode
  peerNetns : String
  vsocCert : Option String
  vsocKey : Option String
  vsocCacert : Option String
  targetIface : String
  peerIface : String
  targetIp : Option IpAddr
  peerIp : Option IpAddr
  vethPrefix : UInt8
  acd : Int32
  funFw : Int32
  funTraffic : Int32
  reloadTimeoutSecs : UInt64
  eventSettleMs : UInt64
  reportConfirm : ReportConfirm
  vsocUrl : Option String
  idpsFw : String
  stateDb : String
  appUid : UInt32
  appIdentityKey : String
  appPkg : String
  appName : String
  report : Option String
  json : Bool
  deriving DecidableEq

/-- The options when none is given. -/
def GlobalArgs.default : GlobalArgs where
  config := none
  mode := .host
  peerNetns := "fwpeer"
  vsocCert := none
  vsocKey := none
  vsocCacert := none
  targetIface := "fwt0"
  peerIface := "fwp0"
  targetIp := none
  peerIp := none
  vethPrefix := 24
  acd := 1
  funFw := 1
  funTraffic := 4
  reloadTimeoutSecs := 30
  eventSettleMs := 1500
  reportConfirm := .local
  vsocUrl := none
  idpsFw := "idps-fw"
  stateDb := "/data/idd/idps-fw/state.sqlite3"
  appUid := 2000
  appIdentityKey := "com.demo.browser"
  appPkg := "com.demo.browser"
  appName := "Browser"
  report := none
  json := false

/-- Fully resolved configuration shared by every case. -/
structure RunConfig where
  mode : Mode
  target : Endpoint
  peer : Endpoint
  peerIface : String
  targetIp : IpAddr
  peerIp : IpAddr
  acd : Int32
  funFw : Int32
  funTraffic : Int32
  reloadTimeoutSecs : UInt64
  eventSettleMs : UInt64
  reportConfirm : ReportConfirm
  vsoc : Option VsocApi
  idpsFw : String
  stateDb : String
  appUid : UInt32
  appIdentityKey : String
  deriving DecidableEq

/-- `/24` network of the PEER, used for the CIDR match cases. -/
def RunConfig.peerSlash24 (cfg : RunConfig) : String :=
  match cfg.peerIp with
  | .v4 ip => s!"{ip.a}.{ip.b}.{ip.c}.0/24"
  | .v6 _ => s!"{cfg.peerIp}/128"

end FwVerify
