import FwVerify.Model.Config
import FwVerify.Model.Exec
import FwVerify.Model.NetParser
import FwVerify.Model.Report

/-!
# Running programs on the two sides

How a program is started on one of the two sides of a test: on the TARGET as it is, on the PEER
inside a network namespace, which is entered with `nsenter` where the namespace is mounted, and with
`ip netns exec` otherwise. The configuration of a run is resolved with these: an address that is not
given is detected on its own side. How the machine answers is given from outside; every attempt to
start a program is recorded.

## Main definitions

* `Host`, `SpawnAttempt` — the machine, and an attempt to start a program on it
* `Endpoint.spawnProgram`, `Endpoint.runProgram`, `Endpoint.shell` — starting and running a program
* `Endpoint.runAgent`, `Endpoint.agentSpawn` — the same for a worker
* `parseInet`, `Endpoint.detectIpv4` — detecting an address
* `RunConfig.resolve` — the configuration of a run
-/

set_option autoImplicit false

namespace FwVerify

open Fallible Text

/-- Why a program does not start. -/
structure SpawnError where
  notFound : Bool
  text : String

/-- A started program, by how waiting for its end goes. -/
abbrev Child := Except String ProgramOutput

/-- An attempt to start a program. -/
structure SpawnAttempt where
  argv : List String
  started : Bool

/-- The machine. -/
structure Host where
  pathExists : String → Bool
  spawn : List String → Except SpawnError Child
  currentExe : Except String String

/-- Programs that start others. -/
abbrev SpawnM (α : Type) := Prog (List SpawnAttempt) α

/-- Attempt to start a program. -/
def Host.make (host : Host) (argv : List String) : SpawnM (Except SpawnError Child) := do
  let result := host.spawn argv
  modify (· ++ [⟨argv, result.toOption.isSome⟩])
  return result

namespace Endpoint

/-- Start a program inside a namespace by way of `ip`. -/
def viaIp (host : Host) (name : String) (program : List String) : SpawnM Child := do
  let joined := " ".intercalate program
  match ← host.make (["ip", "netns", "exec", name] ++ program) with
  | .ok child => return child
  | .error error => throw s!"failed to spawn \x60{joined}\x60 via ip netns exec: {error.text}"

/-- Start a program on a side. -/
def spawnProgram (host : Host) (program : List String) : Endpoint → SpawnM Child
  | .local => do
    let joined := " ".intercalate program
    match ← host.make program with
    | .ok child => return child
    | .error error => throw s!"failed to spawn \x60{joined}\x60: {error.text}"
  | .netns name => do
    let nsPath := "/run/netns/" ++ name
    if host.pathExists nsPath then
      let joined := " ".intercalate program
      match ← host.make (["nsenter", "--net=" ++ nsPath, "--"] ++ program) with
      | .ok child => return child
      | .error error =>
        -- only a missing `nsenter` is made up for
        if error.notFound then viaIp host name program
        else throw s!"failed to spawn \x60{joined}\x60 via nsenter: {error.text}"
    else viaIp host name program

/-- Run a program to its end. -/
def runProgram (host : Host) (program : List String) (endpoint : Endpoint) :
    SpawnM ProgramOutput := do
  let child ← endpoint.spawnProgram host program
  let joined := " ".intercalate program
  check (Fallible.context s!"failed to wait for \x60{joined}\x60" child)

/-- The command line of a worker. -/
def agentArgv (host : Host) (args : List String) : Except String (List String) := do
  let exe ← Fallible.context "failed to resolve current executable for agent re-exec" host.currentExe
  return [exe, "agent"] ++ args

/-- Run a shell snippet. -/
def shellFull (host : Host) (cmd : String) (endpoint : Endpoint) : SpawnM ProgramOutput :=
  endpoint.runProgram host ["sh", "-c", cmd]

/-- What a shell snippet prints, without the white space around it. -/
def shell (host : Host) (cmd : String) (endpoint : Endpoint) : SpawnM String := do
  let out ← endpoint.shellFull host cmd
  return trim out.stdout

/-- Run a worker and parse its output. -/
def runAgent (host : Host) (json : JsonParser) (args : List String) (endpoint : Endpoint) :
    SpawnM Value := do
  let argv ← check (agentArgv host args)
  let out ← endpoint.runProgram host argv
  check (agentJson json args (.ok out))

/-- Start a worker in the background. -/
def agentSpawn (host : Host) (args : List String) (endpoint : Endpoint) : SpawnM Child := do
  let argv ← check (agentArgv host args)
  endpoint.spawnProgram host argv

end Endpoint

/-! ## Addresses -/

/-- The words between white space. -/
def words (s : String) : List String :=
  ((s.toList.splitOnP isWhite).filter fun word => !word.isEmpty).map String.ofList

/-- The address in the output of `ip`: the word behind the first `inet`, up to its slash. -/
def parseInet (out : String) : Except String String :=
  let found := do
    let cidr ← ((words out).dropWhile (· != "inet"))[1]?
    let addr ← (splitAt '/' cidr).head?
    if (Ipv4Addr.parse addr).isSome then some addr else none
  match found with
  | some addr => .ok addr
  | none => .error "no inet address found"

/-- The command that shows the address of an interface. -/
def showAddr (iface : String) : String := "ip -4 addr show dev " ++ iface

/-- Detect the address of an interface. -/
def Endpoint.detectIpv4 (host : Host) (iface : String) (endpoint : Endpoint) : SpawnM String := do
  let out ← endpoint.shell host (showAddr iface)
  let label := endpoint.label
  check (Fallible.context s!"could not parse IPv4 for {iface} ({label})" (parseInet out))

def resolveIp (host : Host) (explicit : Option IpAddr) (endpoint : Endpoint)
    (iface role : String) : SpawnM IpAddr :=
  match explicit with
  | some ip => return ip
  | none => do
    let text ← endpoint.detectIpv4 host iface
    match IpAddr.parse text with
    | some ip => return ip
    | none => throw s!"failed to parse detected {role} IP: invalid IP address syntax"

/-! ## The configuration of a run -/

/-- The VSOC dashboard when none is given. -/
def defaultVsocUrl : String := "https://127.0.0.1:8443"

/-- Rules go through VSOC in host mode alone. -/
def GlobalArgs.vsocApi (global : GlobalArgs) : Option VsocApi :=
  match global.mode with
  | .host => some {
      baseUrl := global.vsocUrl.getD defaultVsocUrl
      cert := global.vsocCert, key := global.vsocKey, cacert := global.vsocCacert }
  | .android => none

/-- The configuration for two addresses. -/
def GlobalArgs.runConfig (global : GlobalArgs) (targetIp peerIp : IpAddr) : RunConfig where
  mode := global.mode
  target := .local
  peer := .netns global.peerNetns
  peerIface := global.peerIface
  targetIp := targetIp
  peerIp := peerIp
  acd := global.acd
  funFw := global.funFw
  funTraffic := global.funTraffic
  reloadTimeoutSecs := global.reloadTimeoutSecs
  eventSettleMs := global.eventSettleMs
  reportConfirm := global.reportConfirm
  vsoc := global.vsocApi
  idpsFw := global.idpsFw
  stateDb := global.stateDb
  appUid := global.appUid
  appIdentityKey := global.appIdentityKey

/-- Resolve the configuration of a run. -/
def RunConfig.resolve (host : Host) (global : GlobalArgs) : SpawnM RunConfig := do
  let targetIp ← resolveIp host global.targetIp .local global.targetIface "TARGET"
  let peerIp ← resolveIp host global.peerIp (.netns global.peerNetns) global.peerIface "PEER"
  return global.runConfig targetIp peerIp

end FwVerify
