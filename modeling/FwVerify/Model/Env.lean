import FwVerify.Lib.Files
import FwVerify.Lib.Polling
import FwVerify.Model.Config
import FwVerify.Model.Json

/-!
# Staging the test environment

`setup-env` and `clean-env`: the backup of the idps-fw configuration, the configuration
generated for fast tests, and the way back. The programs act on the files by path; how the
commands, file operations and waits of a call end is given from outside, and an operation
that fails leaves the files as they are. Creating the topology only has an outcome here: it
touches none of these files.

## Main definitions

* `fwConfigText`, `fwvConfText` — the generated files
* `backupFwConfig`, `restoreFwConfig` — the backup and the way back
* `setup`, `clean` — the two commands
-/

set_option autoImplicit false

namespace FwVerify

open FileStore Polling

def iddEtc : String := "/etc/idd"
def fwConfig : String := "/etc/idd/idps-fw.yaml"
def fwBackup : String := "/etc/idd/idps-fw.yaml.fwv-bak"
def fwvConf : String := "/etc/idd/fw-verify.conf"

def defaultTargetIp : Ipv4Addr := ⟨10, 123, 0, 1⟩
def defaultPeerIp : Ipv4Addr := ⟨10, 123, 0, 2⟩

def defaultDebugVin : String := "FWVERIFYTEST00001"
def defaultDebugDsn : String := "FWVERIFYTESTDSN01"

/-- Resolved topology parameters for a setup/clean run. -/
structure Topology where
  netns : String
  targetIface : String
  peerIface : String
  targetIp : IpAddr
  peerIp : IpAddr
  prefixLen : UInt8
  policyRoute : Bool
  deriving DecidableEq

/-- The topology of the given options. -/
def Topology.ofGlobal (global : GlobalArgs) : Topology where
  netns := global.peerNetns
  targetIface := global.targetIface
  peerIface := global.peerIface
  targetIp := global.targetIp.getD (.v4 defaultTargetIp)
  peerIp := global.peerIp.getD (.v4 defaultPeerIp)
  prefixLen := global.vethPrefix
  policyRoute := global.mode = .android

/-! ## Generated files -/

/-- The idps-fw configuration tuned for fast tests. -/
def fwConfigText (global : GlobalArgs) (topo : Topology) : String :=
  let iface := topo.targetIface
  "runtime_config_path: /etc/idd/idps.yaml\n" ++
  "state_dir: /data/idd/idps-fw\n" ++
  s!"state_db_path: {global.stateDb}\n" ++
  "ebpf_object_path: /etc/idd/idps-fw.bpf.o\n" ++
  "cgroup_path: /sys/fs/cgroup\n" ++
  s!"tc_ingress_ifaces:\n  - {iface}\n" ++
  s!"tc_egress_ifaces:\n  - {iface}\n" ++
  "rule_poll_interval_secs: 3\n" ++
  "initial_rule_timeout_secs: 30\n" ++
  "event_poll_interval_ms: 100\n" ++
  "identity_refresh_interval_secs: 10\n" ++
  "report_flush_interval_ms: 500\n" ++
  "report_ack_timeout_secs: 10\n" ++
  "traffic_cycle_secs: 5\n" ++
  "interface_categories:\n" ++
  s!"  - exact: {iface}\n    category: wifi\n" ++
  "  - prefix: rmnet\n    category: mobile\n" ++
  "  - prefix: ccmni\n    category: mobile\n" ++
  "identity_overrides:\n" ++
  s!"  - identity_key: \"{global.appIdentityKey}\"\n" ++
  s!"    uid: {global.appUid}\n" ++
  s!"    pkg_name: \"{global.appPkg}\"\n" ++
  s!"    app_name: \"{global.appName}\"\n"

/-- The host-mode lines of `fw-verify.conf`. -/
def fwvConfVsoc (global : GlobalArgs) : String :=
  let url := global.vsocUrl.getD "https://127.0.0.1:8443"
  s!"vsoc_url = {url}\n" ++
  match global.vsocCert, global.vsocKey with
  | some cert, some key =>
    s!"vsoc_cert = {cert}\nvsoc_key = {key}\n" ++
    match global.vsocCacert with
    | some cacert => s!"vsoc_cacert = {cacert}\n"
    | none => ""
  | _, _ =>
    "# set vsoc_cert/vsoc_key to the VSOC mTLS client certificate before running\n"

/-- The generated `fw-verify.conf`. -/
def fwvConfText (global : GlobalArgs) (topo : Topology) : String :=
  "# fw-verify config (generated by \x60fw-verify setup-env\x60).\n" ++
  s!"mode = {global.mode.lowercase}\n" ++
  s!"target_iface = {topo.targetIface}\n" ++
  s!"peer_iface = {topo.peerIface}\n" ++
  s!"peer_netns = {topo.netns}\n" ++
  s!"target_ip = {topo.targetIp}\n" ++
  s!"peer_ip = {topo.peerIp}\n" ++
  s!"idps_fw = {global.idpsFw}\n" ++
  s!"state_db = {global.stateDb}\n" ++
  s!"app_uid = {global.appUid}\n" ++
  s!"app_identity_key = {global.appIdentityKey}\n" ++
  s!"app_pkg = {global.appPkg}\n" ++
  s!"app_name = {global.appName}\n" ++
  if global.mode = .host then fwvConfVsoc global else ""

/-! ## The programs -/

/-- How the steps of the keystore injection end. `present` and `polls` say whether the
keystore file is there when it is looked for. -/
structure KeystoreSteps where
  present : Bool
  writeVin : Bool
  writeDsn : Bool
  restartServer : Bool
  polls : Polls Bool

/-- How the steps of one `setup` call end. -/
structure SetupSteps where
  createTopology : Except String Unit
  createDir : Bool
  backupCopy : Bool
  writeConfig : Bool
  writeConf : Bool
  keystore : KeystoreSteps
  restartFw : Bool
  /-- The snapshots the health queries return, `none` for a query that failed. -/
  health : Polls (Option Value)
  restoreCopy : Bool
  restoreRemove : Bool
  restartRestored : Bool

/-- How the steps of one `clean` call end. -/
structure CleanSteps where
  restoreCopy : Bool
  restoreRemove : Bool
  restartFw : Bool
  removeConf : Bool

/-- Keep the present configuration, unless a backup is kept already. -/
def backupFwConfig (copies : Bool) : FileM Unit := do
  -- whoever wrote the configuration: a generated one is kept like the user's
  if (← pathExists fwConfig) && !(← pathExists fwBackup) then
    orFail (← copy copies fwConfig fwBackup) s!"failed to back up {fwConfig}"

/-- Put the backup back, and drop it once it is in place. -/
def restoreFwConfig (copies removes : Bool) : FileM Bool := do
  if ← pathExists fwBackup then
    if ← copy copies fwBackup fwConfig then
      -- a backup that cannot be removed stays for the next time
      let _ ← remove removes fwBackup
      return true
    else
      return false
  else
    return false

def writeFwConfig (succeeds : Bool) (global : GlobalArgs) (topo : Topology) : FileM Unit := do
  orFail (← write succeeds fwConfig (fwConfigText global topo))
    s!"failed to write {fwConfig} (is the partition writable?)"

def writeFwvConf (succeeds : Bool) (global : GlobalArgs) (topo : Topology) : FileM Unit := do
  orFail (← write succeeds fwvConf (fwvConfText global topo)) s!"failed to write {fwvConf}"

def writeDebugId (succeeds : Bool) (name value : String) : FileM Unit := do
  let path := s!"/data/idd/{name}"
  orFail (← write succeeds path value) s!"failed to write {path}"

/-- Restart a daemon. On the host a failing restart is only noted. -/
def restartService (mode : Mode) (starts : Bool) (service : String) : Except String Unit :=
  match mode with
  | .android => if starts then .ok () else .error s!"failed to start {service}"
  | .host => .ok ()

/-- Ensure there is a runtime keystore: inject a debug identity, restart idps-server and
wait for it to derive one. -/
def ensureKeystoreAndroid (global : GlobalArgs) (steps : KeystoreSteps) : FileM Unit := do
  if steps.present then
    return ()
  else
    writeDebugId steps.writeVin "vin_debug" defaultDebugVin
    writeDebugId steps.writeDsn "dsn_debug" defaultDebugDsn
    stopOnError (restartService global.mode steps.restartServer "idps-server")
    orFail (pollUntil id steps.polls)
      ("keystore still missing after injecting VIN/DSN and restarting idps-server; " ++
        "check that idps-server is running and /data/idd is writable")

/-- Whether some health snapshot reports the daemon connected. -/
def waitHealthy (health : Polls (Option Value)) : Bool :=
  pollUntil (fun snapshot => (snapshot.bind (·.get "connected")).bind Value.asBool == some true)
    health

/-- Write the idps-fw and fw-verify configurations and, on Android, derive the keystore and
restart the daemon; only a daemon that stays unhealthy gets the previous configuration
back. -/
def setup (global : GlobalArgs) (steps : SetupSteps) : FileM Unit := do
  let topo := Topology.ofGlobal global
  stopOnError steps.createTopology
  orFail steps.createDir s!"failed to create {iddEtc} (is the partition writable?)"
  backupFwConfig steps.backupCopy
  writeFwConfig steps.writeConfig global topo
  writeFwvConf steps.writeConf global topo
  match global.mode with
  | .android =>
    ensureKeystoreAndroid global steps.keystore
    stopOnError (restartService global.mode steps.restartFw "idps-fw")
    if waitHealthy steps.health then
      return ()
    -- the only failure with a way back
    else
      let _ ← restoreFwConfig steps.restoreCopy steps.restoreRemove
      ignoring (stopOnError (restartService global.mode steps.restartRestored "idps-fw"))
      throw "idps-fw unhealthy after applying the fast config; restored the previous one"
  | .host => return ()

/-- Restore the idps-fw configuration and remove `fw-verify.conf`; every failure is
ignored. -/
def clean (global : GlobalArgs) (steps : CleanSteps) : FileM Unit := do
  let restored ← restoreFwConfig steps.restoreCopy steps.restoreRemove
  if restored && global.mode = .android then
    ignoring (stopOnError (restartService global.mode steps.restartFw "idps-fw"))
  let _ ← remove steps.removeConf fwvConf
  return ()

end FwVerify
